import JobQueue.Machines.Replay
import JobQueue.Workflow.Store.BatchTransitions

/-!
# Runs of the memory store on batches

A run is any list of mutating calls on batches, from the empty store. The
counters of a stored batch are counts over its members, and its flags follow
from the counters and from whether it was cancelled explicitly. Hence the
aggregate is a function of the first outcome of each member and of that one
bit, whatever the order and number of the calls.
-/

namespace JobQueue.Workflow

/-- A mutating call on batches, with the clock reading it takes. -/
inductive BatchCall
  | createBatch (record : BatchRecord) (now : Time)
  | markBatchJobStarted (batchID jobID : String) (now : Time)
  | settleBatchOutcome (batchID jobID : String) (outcome : BatchJobOutcome)
      (claim : TransitionClaim) (now : Time)
  | cancelBatch (batchID : String) (now : Time)
  | prune (before : Time)
  | discardBatch (batchID : String)

namespace BatchCall

/-- The store a call leaves behind. -/
def apply (store : MemoryStore) : BatchCall -> MemoryStore
  | .createBatch record now => (store.createBatch record now).2
  | .markBatchJobStarted batchID jobID now => (store.markBatchJobStarted batchID jobID now).2
  | .settleBatchOutcome batchID jobID outcome claim now =>
    (store.settleBatchOutcome batchID jobID outcome claim now).2
  | .cancelBatch batchID now => (store.cancelBatch batchID now).2
  | .prune before => store.prune before
  | .discardBatch batchID => store.discardBatch batchID

/-- A call that installs a fresh batch under an identifier. -/
def creates (batchID : String) : BatchCall -> Prop
  | .createBatch record _ => record.batchID = batchID ∧ validateBatchRecord record = none
  | _ => False

instance (batchID : String) (call : BatchCall) : Decidable (call.creates batchID) := by
  cases call <;> unfold creates <;> infer_instance

/-- A call that cancels a batch explicitly. -/
def cancels (batchID : String) : BatchCall -> Bool
  | .cancelBatch target _ => target == batchID
  | _ => false

/-- The outcome a call settles a member of a batch with: the outcome is
supported and the call belongs to the same dispatch. -/
def outcomeFor (batchID dispatchID jobID : String) : BatchCall -> Option BatchJobOutcome
  | .settleBatchOutcome target member outcome claim _ =>
    if target = batchID ∧ member = jobID ∧ outcome.supported ∧
        dispatchMismatch dispatchID claim.dispatchID = false then
      some outcome
    else none
  | _ => none

end BatchCall

/-- Whether `CancelBatch` ran after the last creation of a batch. -/
def cancelledSinceCreation (batchID : String) (calls : List BatchCall) : Bool :=
  calls.foldl (fun ran call =>
      if call.creates batchID then false else ran || call.cancels batchID)
    false

/-- The first outcome that a list of calls settles a member with. -/
def firstOutcome (record : BatchRecord) (calls : List BatchCall) (jobID : String) :
    Option BatchJobOutcome :=
  calls.findSome? (BatchCall.outcomeFor record.batchID record.dispatchID jobID)

namespace MemoryStore

/-- The store after a list of calls. -/
def runBatches (store : MemoryStore) (calls : List BatchCall) : MemoryStore :=
  Replay.run BatchCall.apply store calls

/-- No call re-creates the batch, and none removes it. -/
def BatchUndisturbed (batchID : String) (store : MemoryStore) (calls : List BatchCall) : Prop :=
  Replay.History BatchCall.apply (fun state call =>
      ¬call.creates batchID ∧ ((call.apply state).batch batchID).isSome = true)
    store calls

instance (batchID : String) (store : MemoryStore) (calls : List BatchCall) :
    Decidable (BatchUndisturbed batchID store calls) :=
  Replay.decidableHistory _ _ store calls

end MemoryStore

/-! ## Aggregates -/

/-- Counters and flags of a batch. -/
structure BatchAggregate where
  total : Int
  pending : Int
  processed : Int
  failed : Int
  cancelled : Bool
  completed : Bool
  deriving DecidableEq, Repr

/-- The aggregate part of a stored state. -/
def BatchState.aggregate (state : BatchState) : BatchAggregate where
  total := state.total
  pending := state.pending
  processed := state.processed
  failed := state.failed
  cancelled := state.cancelled
  completed := state.completed

/-- The aggregate that members, their outcomes and an explicit cancellation
determine. -/
def aggregateOf (members : List String) (allowFailed : Bool)
    (outcome : String -> Option BatchJobOutcome) (cancelRan : Bool) :
    BatchAggregate :=
  let pending := members.countP fun member => (outcome member).isNone
  let failed := members.countP fun member => outcome member == some .failed
  let cancelled := cancelRan || (!allowFailed && decide (0 < failed))
  { total := members.length
    pending := pending
    processed := members.countP fun member => (outcome member).isSome
    failed := failed
    cancelled := cancelled
    completed := decide (pending = 0) || cancelled }

/-- Outcomes matter at the members only. -/
theorem aggregateOf_congr (same : ∀ member ∈ members, first member = second member) :
    aggregateOf members allowFailed first cancelRan =
      aggregateOf members allowFailed second cancelRan := by
  have counts : ∀ predicate : Option BatchJobOutcome -> Bool,
      (members.countP fun member => predicate (first member)) =
        members.countP fun member => predicate (second member) := by
    intro predicate
    apply List.countP_congr
    intro member listed
    rw [same member listed]
  simp only [aggregateOf, counts Option.isNone, counts Option.isSome,
    counts (fun known => known == some .failed)]

/-- Counters count members, and flags follow from them. -/
structure MemoryBatch.Consistent (batch : MemoryBatch) (cancelRan : Bool) : Prop where
  distinct : (batch.jobs.map Prod.fst).Nodup
  total_eq : batch.state.total = batch.jobs.length
  pending_eq : batch.state.pending = batch.jobs.countP fun entry => !entry.2.done
  processed_eq : batch.state.processed = batch.jobs.countP fun entry => entry.2.done
  failed_eq : batch.state.failed = batch.jobs.countP fun entry => entry.2.done && entry.2.failed
  cancelled_iff :
    batch.state.cancelled = true ↔ cancelRan = true ∨
        (batch.state.allowFailed = false ∧ 0 < batch.state.failed)
  completed_iff :
    batch.state.completed = true ↔ batch.state.pending = 0 ∨ batch.state.cancelled = true

/-! ## Steps of one stored batch -/

/-- What a call does to the aggregate of one batch. -/
inductive BatchEffect
  | touched
  | settled (jobID : String) (outcome : BatchJobOutcome)
  | cancelled
  deriving DecidableEq, Repr

/-- How one call can change a stored batch. -/
inductive BatchStep (batch : MemoryBatch) : BatchEffect -> MemoryBatch -> Prop
  | kept : BatchStep batch .touched batch
  | refreshed (now : Time) :
      BatchStep batch .touched { batch with state := { batch.state with updatedAt := now } }
  | started (jobID : String) (status : BatchJobStatus) (now : Time)
      (found : KeyedList.find jobID batch.jobs = some status) :
      BatchStep batch .touched
        { state := { batch.state with updatedAt := now }
          jobs := KeyedList.replace jobID { status with started := true } batch.jobs }
  | settled (jobID : String) (status : BatchJobStatus) (outcome : BatchJobOutcome) (now : Time)
      (supported : outcome.supported) (found : KeyedList.find jobID batch.jobs = some status)
      (unsettled : status.done = false) :
      BatchStep batch (.settled jobID outcome)
        (MemoryStore.settledMember batch jobID status (decide (outcome = .failed)) now)
  | cancelled (now : Time) :
      BatchStep batch .cancelled
        { batch with
          state :=
            { batch.state with cancelled := true, completed := true, updatedAt := now } }

namespace MemoryStore

/-- A valid record replaces the batch stored under its identifier. -/
theorem createBatch_batch (store : MemoryStore) (valid : validateBatchRecord record = none) :
    (store.createBatch record now).2.batch = Function.update store.batch record.batchID
        (some (createdBatch record now)) := by
  rw [createBatch, valid]
  rfl

end MemoryStore

namespace BatchCall

/-- The effect of a call on a stored batch. -/
def effect (batchID : String) (batch : MemoryBatch) : BatchCall -> BatchEffect
  | .cancelBatch target _ =>
    if target = batchID then .cancelled else .touched
  | .settleBatchOutcome target jobID outcome claim _ =>
    if target = batchID ∧ outcome.supported ∧
        dispatchMismatch batch.state.dispatchID claim.dispatchID = false ∧
        (KeyedList.find jobID batch.jobs).any (fun status => !status.done)
    then .settled jobID outcome
    else .touched
  | _ => .touched

open MemoryStore

/-- A batch stored after a call was created by it or made the step that the
effect of the call names. -/
theorem stored_cases (call : BatchCall) (stored : (call.apply store).batch batchID = some after) :
    (call.creates batchID ∧ ∃ record now, record.batchID = batchID ∧
        validateBatchRecord record = none ∧ after = createdBatch record now) ∨
      ¬call.creates batchID ∧ ∃ batch, store.batch batchID = some batch ∧
        BatchStep batch (call.effect batchID batch) after := by
  have keeps (plain : ¬call.creates batchID) (touched : call.effect batchID after = .touched)
      (kept : store.batch batchID = some after) :
      ¬call.creates batchID ∧ ∃ batch, store.batch batchID = some batch ∧
        BatchStep batch (call.effect batchID batch) after :=
    ⟨plain, after, kept, touched ▸ .kept⟩
  cases call with
  | createBatch record now =>
    simp only [apply] at stored
    cases checked : validateBatchRecord record with
    | some error =>
      rw [MemoryStore.createBatch, checked] at stored
      refine .inr (keeps (fun created => ?_) rfl stored)
      rw [created.2] at checked
      cases checked
    | none =>
      rw [createBatch_batch store checked] at stored
      rcases KeyedList.update_eq_some stored with ⟨rfl, rfl⟩ | ⟨other, kept⟩
      · exact .inl ⟨⟨rfl, checked⟩, record, now, rfl, checked, rfl⟩
      · exact .inr (keeps (fun created => other created.1.symm) rfl kept)
  | markBatchJobStarted target jobID now =>
    right
    simp only [apply, MemoryStore.markBatchJobStarted] at stored
    split at stored
    · exact keeps id rfl stored
    rename_i batch present
    split at stored
    · exact keeps id rfl stored
    rename_i status found
    rw [setBatch_batch] at stored
    rcases KeyedList.update_eq_some stored with ⟨rfl, rfl⟩ | ⟨_, kept⟩
    · exact ⟨id, batch, present, .started jobID status now found⟩
    · exact keeps id rfl kept
  | settleBatchOutcome target jobID outcome claim now =>
    right
    simp only [apply] at stored
    by_cases same : target = batchID
    · subst same
      rcases Option.eq_none_or_eq_some (store.batch target) with absent | ⟨batch, present⟩
      · rw [MemoryStore.settleBatchOutcome, absent] at stored
        split at stored <;> simp [absent] at stored
      · have answer := settleBatchOutcome_cases present jobID outcome claim now
        generalize store.settleBatchOutcome target jobID outcome claim now = result at answer stored
        cases answer with
        | refused error reason =>
          cases Option.some.inj (present.symm.trans stored)
          refine keeps id ?_ stored
          rcases reason with unsupported | missing | mismatch
          · simp [effect, unsupported]
          · simp [effect, missing]
          · simp [effect, mismatch]
        | foreign mismatch =>
          cases Option.some.inj (present.symm.trans stored)
          exact keeps id (by simp [effect, mismatch]) stored
        | replayed status found done =>
          rw [setBatch_batch, Function.update_self, Option.some_inj] at stored
          exact ⟨id, batch, present, by
            simpa [effect, found, done, ← stored] using .refreshed now⟩
        | claimed status supported found unsettled matching =>
          rw [claimSettlement_batch, Function.update_self, Option.some_inj] at stored
          exact ⟨id, batch, present, by
            simpa [effect, supported, found, unsettled, matching, ← stored] using
              .settled jobID status outcome now supported found unsettled⟩
    · rw [settleBatchOutcome_batch_of_ne store (Ne.symm same)] at stored
      exact keeps id (by simp [effect, same]) stored
  | cancelBatch target now =>
    right
    simp only [apply, MemoryStore.cancelBatch] at stored
    split at stored
    · rename_i absent
      have other : target ≠ batchID := by
        rintro rfl
        rw [absent] at stored
        cases stored
      exact keeps id (by simp [effect, other]) stored
    · rename_i batch present
      rw [setBatch_batch] at stored
      rcases KeyedList.update_eq_some stored with ⟨rfl, rfl⟩ | ⟨other, kept⟩
      · exact ⟨id, batch, present, by simpa [effect] using .cancelled now⟩
      · exact keeps id (by simp [effect, Ne.symm other]) kept
  | prune before => exact .inr (keeps id rfl (Option.filter_eq_some_iff.mp stored).1)
  | discardBatch target =>
    right
    by_cases same : batchID = target
    · simp [apply, MemoryStore.discardBatch, MemoryStore.deleteTransitionReceipts, same] at stored
    · refine keeps id rfl ?_
      simpa [apply, MemoryStore.discardBatch,
        MemoryStore.deleteTransitionReceipts, same] using stored

/-- Only an explicit cancellation has the effect of one. -/
theorem decide_effect (call : BatchCall) (batch : MemoryBatch) :
    decide (call.effect batchID batch = .cancelled) = call.cancels batchID := by
  cases call with
  | settleBatchOutcome target jobID outcome claim now =>
    simp only [effect, cancels]
    split <;> simp
  | cancelBatch target now => by_cases same : target = batchID <;> simp [effect, cancels, same]
  | _ => simp [effect, cancels]

end BatchCall

/-! ## Counters along runs -/

namespace MemoryBatch

variable {batch : MemoryBatch}

/-- Replacing a member by one with the same outcome moves no counter. -/
theorem Consistent.replace (consistent : batch.Consistent cancelRan)
    (found : KeyedList.find jobID batch.jobs = some status) (sameDone : updated.done = status.done)
    (sameFailed : updated.failed = status.failed) :
    ({ state := { batch.state with updatedAt := now }
       jobs := KeyedList.replace jobID updated batch.jobs } :
      MemoryBatch).Consistent cancelRan := by
  have undone := KeyedList.countP_replace (fun entry => !entry.2.done) found updated
  have done := KeyedList.countP_replace (fun entry => entry.2.done) found updated
  have failed := KeyedList.countP_replace
    (fun entry => entry.2.done && entry.2.failed) found updated
  simp only [sameDone, sameFailed] at undone done failed
  refine ⟨?_, ?_, ?_, ?_, ?_, consistent.cancelled_iff, consistent.completed_iff⟩
  · rw [KeyedList.keys_replace]
    exact consistent.distinct
  · rw [KeyedList.length_replace]
    exact consistent.total_eq
  · have := consistent.pending_eq
    simp only
    omega
  · have := consistent.processed_eq
    simp only
    omega
  · have := consistent.failed_eq
    simp only
    omega

/-- The first settlement of a member moves the counters with it. -/
theorem Consistent.settled (consistent : batch.Consistent cancelRan)
    (found : KeyedList.find jobID batch.jobs = some status)
    (unsettled : status.done = false) (failure : Bool) :
    (MemoryStore.settledMember batch jobID status failure now).Consistent cancelRan := by
  have undone := KeyedList.countP_replace (fun entry => !entry.2.done) found
    { status with done := true, failed := failure }
  have done := KeyedList.countP_replace (fun entry => entry.2.done) found
    { status with done := true, failed := failure }
  have failed := KeyedList.countP_replace (fun entry => entry.2.done && entry.2.failed) found
    { status with done := true, failed := failure }
  simp only [unsettled, Bool.not_false, Bool.not_true, Bool.true_and,
    Bool.false_and, Bool.false_eq_true, if_true, if_false] at undone done failed
  have pendingEq := consistent.pending_eq
  have processedEq := consistent.processed_eq
  have failedEq := consistent.failed_eq
  have cancelledIff := consistent.cancelled_iff
  have completedIff := consistent.completed_iff
  refine ⟨?_, ?_, ?_, ?_, ?_, ?_, ?_⟩
  · rw [MemoryStore.settledMember, KeyedList.keys_replace]
    exact consistent.distinct
  · rw [MemoryStore.settledMember, KeyedList.length_replace]
    exact consistent.total_eq
  · simp only [MemoryStore.settledMember, MemoryStore.settledState]
    omega
  · simp only [MemoryStore.settledMember, MemoryStore.settledState]
    omega
  · simp only [MemoryStore.settledMember, MemoryStore.settledState]
    cases failure <;> simp at failed ⊢ <;> omega
  · simp only [MemoryStore.settledMember, MemoryStore.settledState]
    have countNonneg : 0 ≤ batch.state.failed := by omega
    cases failure with
    | false => simpa using cancelledIff
    | true =>
      cases allowed : batch.state.allowFailed with
      | true => simpa [allowed] using cancelledIff
      | false =>
        simp only [Bool.not_false, Bool.and_self, if_true, true_iff]
        exact .inr ⟨trivial, by omega⟩
  · simp only [MemoryStore.settledMember, MemoryStore.settledState]
    have someone : 0 < batch.state.pending := by omega
    cases failFast : failure && !batch.state.allowFailed with
    | true => simp
    | false =>
      simp only [Bool.false_eq_true, if_false]
      by_cases last : batch.state.pending - 1 ≤ 0
      · simp only [if_pos last, true_iff]
        left
        omega
      · rw [if_neg last, completedIff]
        constructor <;>
          · rintro (zero | flagged)
            · omega
            · exact .inr flagged

/-- A step keeps counters and flags consistent. -/
theorem Consistent.step (consistent : batch.Consistent cancelRan)
    (step : BatchStep batch effect after) :
    after.Consistent (cancelRan || decide (effect = .cancelled)) := by
  cases step with
  | kept => simpa using consistent
  | refreshed now =>
    simp only [reduceCtorEq, decide_false, Bool.or_false]
    exact ⟨consistent.distinct, consistent.total_eq, consistent.pending_eq, consistent.processed_eq,
      consistent.failed_eq, consistent.cancelled_iff, consistent.completed_iff⟩
  | started jobID status now found =>
    simp only [reduceCtorEq, decide_false, Bool.or_false]
    exact consistent.replace found rfl rfl
  | settled jobID status outcome now supported found unsettled =>
    simp only [reduceCtorEq, decide_false, Bool.or_false]
    exact consistent.settled found unsettled _
  | cancelled now =>
    exact ⟨consistent.distinct, consistent.total_eq, consistent.pending_eq,
      consistent.processed_eq, consistent.failed_eq, by simp, by simp⟩

end MemoryBatch

namespace MemoryStore

/-- A freshly created batch is consistent. -/
theorem createdBatch_consistent (valid : validateBatchRecord record = none) :
    (createdBatch record now).Consistent false := by
  obtain ⟨_, nonempty, distinct⟩ := validateBatchRecord_eq_none valid
  have positive : 0 < record.jobs.length := List.length_pos_iff.mpr nonempty
  refine ⟨?_, ?_, ?_, ?_, ?_, ?_, ?_⟩
  · simpa [createdBatch, Function.comp_def] using distinct
  · simp [createdBatch]
  · simp [createdBatch, List.countP_map, Function.comp_def]
  · simp [createdBatch, List.countP_map, Function.comp_def]
  · simp [createdBatch, List.countP_map, Function.comp_def]
  · simp [createdBatch]
  · simp only [createdBatch, BatchRecord.start, Bool.false_eq_true, or_false, false_iff]
    omega

/-- Every stored batch is consistent with the calls made so far. -/
def BatchesConsistent (calls : List BatchCall) (store : MemoryStore) : Prop :=
  ∀ batchID batch, store.batch batchID = some batch ->
    batch.Consistent (cancelledSinceCreation batchID calls)

theorem cancelledSinceCreation_snoc :
    cancelledSinceCreation batchID (calls ++ [call]) = if call.creates batchID then false
      else cancelledSinceCreation batchID calls || call.cancels batchID := by
  rw [cancelledSinceCreation, List.foldl_append]
  rfl

/-- One call keeps every stored batch consistent. -/
theorem BatchesConsistent.apply (consistent : BatchesConsistent calls store) :
    BatchesConsistent (calls ++ [call]) (call.apply store) := by
  intro batchID after stored
  rw [cancelledSinceCreation_snoc]
  rcases call.stored_cases stored with
    ⟨created, record, now, _, valid, rfl⟩ | ⟨plain, batch, before, step⟩
  · rw [if_pos created]
    exact createdBatch_consistent valid
  · rw [if_neg plain, ← call.decide_effect batch]
    exact (consistent batchID batch before).step step

/-- Every run keeps every stored batch consistent. -/
theorem batchesConsistent_run (calls : List BatchCall) :
    BatchesConsistent calls (empty.runBatches calls) := by
  have start : BatchesConsistent [] empty := by
    intro batchID batch stored
    exact absurd stored (by simp [empty])
  have kept := Replay.run_trace_invariant BatchesConsistent
    (fun made state call consistent => consistent.apply) start calls
  rwa [List.nil_append] at kept

end MemoryStore

/-! ## First outcomes -/

/-- The members of a batch carry the first outcome of each. -/
structure MemoryBatch.Ledger (batch : MemoryBatch) (record : BatchRecord)
    (outcome : String -> Option BatchJobOutcome) : Prop where
  members : batch.jobs.map Prod.fst = record.jobs.map (·.jobID)
  dispatchID_eq : batch.state.dispatchID = record.dispatchID
  allowFailed_eq : batch.state.allowFailed = record.allowFailed
  done_eq : ∀ jobID status, KeyedList.find jobID batch.jobs = some status ->
    status.done = (outcome jobID).isSome
  failed_eq : ∀ jobID status, KeyedList.find jobID batch.jobs = some status ->
    (status.done && status.failed) = (outcome jobID == some .failed)

namespace BatchCall

/-- A call settles at most one member. -/
theorem outcomeFor_of_settled {call : BatchCall}
    (settles : call.effect batchID batch = .settled jobID outcome) (other : String) :
    call.outcomeFor batchID batch.state.dispatchID other =
      if other = jobID then some outcome else none := by
  cases call with
  | settleBatchOutcome target member result claim now =>
    simp only [effect] at settles
    split at settles
    · rename_i eligible
      cases settles
      obtain ⟨same, supported, matching, _⟩ := eligible
      simp only [outcomeFor, same, supported, matching, true_and, and_true]
      by_cases here : other = jobID
      · simp [here]
      · simp [here, Ne.symm here]
    · cases settles
  | cancelBatch target now =>
    simp only [effect] at settles
    split at settles <;> cases settles
  | _ => cases settles

/-- A call without the effect of a settlement settles nobody who is not done
already. -/
theorem outcomeFor_of_not_settled {call : BatchCall}
    (nothing : ∀ jobID outcome, call.effect batchID batch ≠ .settled jobID outcome)
    (found : KeyedList.find jobID batch.jobs = some status) (unsettled : status.done = false) :
    call.outcomeFor batchID batch.state.dispatchID jobID = none := by
  cases call with
  | settleBatchOutcome target member result claim now =>
    simp only [outcomeFor]
    split
    · rename_i eligible
      obtain ⟨same, here, supported, matching⟩ := eligible
      subst same
      subst here
      exact absurd (by simp [effect, supported, matching, found, unsettled]) (nothing member result)
    · rfl
  | _ => rfl

end BatchCall

/-- One more call can only add to the first outcome of a member. -/
theorem firstOutcome_snoc :
    firstOutcome record (calls ++ [call]) jobID = (firstOutcome record calls jobID).or
        (call.outcomeFor record.batchID record.dispatchID jobID) := by
  rw [firstOutcome, List.findSome?_append, List.findSome?_singleton]
  rfl

namespace MemoryBatch.Ledger

variable {batch after : MemoryBatch} {record : BatchRecord}

section FirstOutcome

variable (ledger : batch.Ledger record (firstOutcome record calls))
include ledger

/-- A call that settles nobody keeps first outcomes as they were. -/
theorem keep (nothing : ∀ jobID outcome, call.effect record.batchID batch ≠ .settled jobID outcome)
    (found : KeyedList.find jobID batch.jobs = some status) :
    firstOutcome record (calls ++ [call]) jobID = firstOutcome record calls jobID := by
  rw [firstOutcome_snoc]
  cases known : firstOutcome record calls jobID with
  | some outcome => rfl
  | none =>
    have unsettled : status.done = false := by
      rw [ledger.done_eq jobID status found, known]
      rfl
    have absent := BatchCall.outcomeFor_of_not_settled nothing found unsettled
    rw [ledger.dispatchID_eq] at absent
    rw [absent]
    rfl

/-- A step that settles nobody and keeps every member's outcome keeps the
ledger. -/
theorem of_statuses
    (nothing : ∀ jobID outcome, call.effect record.batchID batch ≠ .settled jobID outcome)
    (sameKeys : after.jobs.map Prod.fst = batch.jobs.map Prod.fst)
    (sameDispatch : after.state.dispatchID = batch.state.dispatchID)
    (sameAllow : after.state.allowFailed = batch.state.allowFailed)
    (statuses : ∀ jobID updated, KeyedList.find jobID after.jobs = some updated ->
        ∃ status, KeyedList.find jobID batch.jobs = some status ∧
          updated.done = status.done ∧ updated.failed = status.failed) :
    after.Ledger record (firstOutcome record (calls ++ [call])) := by
  refine ⟨sameKeys.trans ledger.members, sameDispatch.trans
    ledger.dispatchID_eq, sameAllow.trans ledger.allowFailed_eq, ?_, ?_⟩
  · intro jobID updated foundAfter
    obtain ⟨status, found, sameDone, _⟩ := statuses jobID updated foundAfter
    rw [ledger.keep nothing found, sameDone]
    exact ledger.done_eq jobID status found
  · intro jobID updated foundAfter
    obtain ⟨status, found, sameDone, sameFailed⟩ := statuses jobID updated foundAfter
    rw [ledger.keep nothing found, sameDone, sameFailed]
    exact ledger.failed_eq jobID status found

/-- A settlement enters the outcome of its member and of nobody else. -/
theorem settled (settles : call.effect record.batchID batch = .settled jobID outcome)
    (found : KeyedList.find jobID batch.jobs = some status) (unsettled : status.done = false) :
    (MemoryStore.settledMember batch jobID status (decide (outcome = .failed)) now).Ledger record
        (firstOutcome record (calls ++ [call])) := by
  have entered : firstOutcome record (calls ++ [call]) jobID = some outcome := by
    have unknown : firstOutcome record calls jobID = none := by
      have done := ledger.done_eq jobID status found
      rw [unsettled] at done
      exact Option.isNone_iff_eq_none.mp (Option.isSome_eq_false_iff.mp done.symm)
    have here := BatchCall.outcomeFor_of_settled settles jobID
    rw [ledger.dispatchID_eq] at here
    rw [firstOutcome_snoc, unknown, here]
    simp
  have others : ∀ other, other ≠ jobID -> firstOutcome record (calls ++ [call]) other =
        firstOutcome record calls other := by
    intro other different
    have elsewhere := BatchCall.outcomeFor_of_settled settles other
    rw [ledger.dispatchID_eq] at elsewhere
    rw [firstOutcome_snoc, elsewhere, if_neg different, Option.or_none]
  refine ⟨?_, ledger.dispatchID_eq, ledger.allowFailed_eq, ?_, ?_⟩
  · rw [MemoryStore.settledMember, KeyedList.keys_replace]
    exact ledger.members
  · intro other updated foundAfter
    rw [MemoryStore.settledMember] at foundAfter
    by_cases same : other = jobID
    · subst same
      rw [KeyedList.find_replace_self found, Option.some_inj] at foundAfter
      rw [entered, ← foundAfter]
      rfl
    · rw [KeyedList.find_replace_of_ne same] at foundAfter
      rw [others other same]
      exact ledger.done_eq other updated foundAfter
  · intro other updated foundAfter
    rw [MemoryStore.settledMember] at foundAfter
    by_cases same : other = jobID
    · subst same
      rw [KeyedList.find_replace_self found, Option.some_inj] at foundAfter
      rw [entered, ← foundAfter, Bool.true_and, Bool.eq_iff_iff,
        decide_eq_true_iff, beq_iff_eq, Option.some_inj]
    · rw [KeyedList.find_replace_of_ne same] at foundAfter
      rw [others other same]
      exact ledger.failed_eq other updated foundAfter

/-- A step keeps the ledger of first outcomes. -/
theorem step (effectEq : call.effect record.batchID batch = effect)
    (step : BatchStep batch effect after) :
    after.Ledger record (firstOutcome record (calls ++ [call])) := by
  cases step with
  | kept =>
    exact ledger.of_statuses (by simp [effectEq]) rfl rfl rfl
      fun jobID updated found => ⟨updated, found, rfl, rfl⟩
  | refreshed now =>
    exact ledger.of_statuses (by simp [effectEq]) rfl rfl rfl
      fun jobID updated found => ⟨updated, found, rfl, rfl⟩
  | started jobID status now found =>
    refine ledger.of_statuses (by simp [effectEq]) (KeyedList.keys_replace _ _ _) rfl rfl ?_
    intro other updated foundAfter
    by_cases same : other = jobID
    · subst same
      rw [KeyedList.find_replace_self found, Option.some_inj] at foundAfter
      exact ⟨status, found, by rw [← foundAfter], by rw [← foundAfter]⟩
    · rw [KeyedList.find_replace_of_ne same] at foundAfter
      exact ⟨updated, foundAfter, rfl, rfl⟩
  | settled jobID status outcome now supported found unsettled =>
    exact ledger.settled effectEq found unsettled
  | cancelled now =>
    exact ledger.of_statuses (by simp [effectEq]) rfl rfl rfl
      fun jobID updated found => ⟨updated, found, rfl, rfl⟩

end FirstOutcome

/-- Counting members by status is counting them by first outcome. -/
theorem countP_eq {outcome : String -> Option BatchJobOutcome} (byStatus : BatchJobStatus -> Bool)
    (byOutcome : Option BatchJobOutcome -> Bool)
    (distinct : (batch.jobs.map Prod.fst).Nodup)
    (members : batch.jobs.map Prod.fst = record.jobs.map (·.jobID))
    (agree : ∀ jobID status, KeyedList.find jobID batch.jobs = some status ->
      byStatus status = byOutcome (outcome jobID)) :
    (batch.jobs.countP fun entry => byStatus entry.2) =
      (record.jobs.map (·.jobID)).countP fun jobID =>
        byOutcome (outcome jobID) := by
  rw [← members, List.countP_map]
  apply List.countP_congr
  rintro ⟨jobID, status⟩ member
  rw [agree jobID status (KeyedList.find_eq_some_of_mem distinct member)]
  rfl

/-- A consistent batch has the aggregate of its first outcomes. -/
theorem aggregate_eq (ledger : batch.Ledger record outcome)
    (consistent : batch.Consistent cancelRan) :
    batch.state.aggregate = aggregateOf (record.jobs.map (·.jobID)) record.allowFailed outcome
        cancelRan := by
  have pending := countP_eq (fun status => !status.done) Option.isNone consistent.distinct
    ledger.members (by
      intro jobID status found
      rw [ledger.done_eq jobID status found, Option.not_isSome])
  have processed := countP_eq (fun status => status.done) Option.isSome
    consistent.distinct ledger.members ledger.done_eq
  have failed := countP_eq (fun status => status.done && status.failed)
    (fun known => known == some .failed) consistent.distinct ledger.members ledger.failed_eq
  have length : batch.jobs.length = (record.jobs.map (·.jobID)).length := by
    rw [← ledger.members, List.length_map]
  have totalEq := consistent.total_eq
  have pendingEq := consistent.pending_eq
  have processedEq := consistent.processed_eq
  have failedEq := consistent.failed_eq
  have cancelledEq : batch.state.cancelled = (cancelRan || (!record.allowFailed && decide
        (0 < (record.jobs.map (·.jobID)).countP fun jobID =>
          outcome jobID == some .failed))) := by
    rw [Bool.eq_iff_iff, consistent.cancelled_iff, ledger.allowFailed_eq, failedEq, failed]
    simp
  have completedEq : batch.state.completed = (decide ((record.jobs.map (·.jobID)).countP
        (fun jobID => (outcome jobID).isNone) = 0) || batch.state.cancelled) := by
    rw [Bool.eq_iff_iff, consistent.completed_iff, pendingEq, pending]
    simp
  rw [BatchState.aggregate, aggregateOf, completedEq, cancelledEq, totalEq,
    pendingEq, processedEq, failedEq, pending, processed, failed, length]

end MemoryBatch.Ledger

namespace MemoryStore

/-- A fresh batch has no outcome. -/
theorem createdBatch_ledger : (createdBatch record now).Ledger record (firstOutcome record []) := by
  have fresh : ∀ jobID status, KeyedList.find jobID (createdBatch record now).jobs = some status ->
        status = {} := by
    intro jobID status found
    have member := KeyedList.mem_of_find_eq_some found
    simp only [createdBatch, List.mem_map, Prod.mk.injEq] at member
    obtain ⟨job, _, _, same⟩ := member
    exact same.symm
  refine ⟨by simp [createdBatch, Function.comp_def], rfl, rfl, ?_, ?_⟩
  · intro jobID status found
    rw [fresh jobID status found]
    rfl
  · intro jobID status found
    rw [fresh jobID status found]
    rfl

/-- While a batch is undisturbed it carries the first outcome of each member,
and its aggregate is determined by them. -/
theorem BatchUndisturbed.ledger (undisturbed : BatchUndisturbed record.batchID store calls)
    (valid : validateBatchRecord record = none)
    (stored : store.batch record.batchID = some (createdBatch record now)) :
    ∃ batch, (store.runBatches calls).batch record.batchID = some batch ∧
      batch.Consistent (calls.any (·.cancels record.batchID)) ∧
      batch.Ledger record (firstOutcome record calls) := by
  refine Replay.History.invariant (fun _ _ => (none : Option Unit)) (fun made _ state =>
      ∃ batch, state.batch record.batchID = some batch ∧
        batch.Consistent (made.any (·.cancels record.batchID)) ∧
        batch.Ledger record (firstOutcome record made))
    ?_ undisturbed
    ⟨_, stored, createdBatch_consistent valid, createdBatch_ledger⟩
  rintro made given state call ⟨notCreated, survives⟩ ⟨batch, storedBefore, consistent, ledger⟩
  obtain ⟨after, storedAfter⟩ := Option.isSome_iff_exists.mp survives
  obtain ⟨_, before, present, step⟩ := (call.stored_cases storedAfter).resolve_left
    fun created => notCreated created.1
  rw [storedBefore, Option.some_inj] at present
  subst present
  refine ⟨after, storedAfter, ?_, ledger.step rfl step⟩
  have next := consistent.step step
  rw [call.decide_effect] at next
  simpa using next

/-- The store right after a batch is created. -/
def afterCreation (before : List BatchCall) (record : BatchRecord) (now : Time) : MemoryStore :=
  empty.runBatches (before ++ [.createBatch record now])

theorem afterCreation_batch (valid : validateBatchRecord record = none) :
    (afterCreation before record now).batch record.batchID = some (createdBatch record now) := by
  rw [afterCreation, runBatches, Replay.run_append]
  exact (congrFun (createBatch_batch _ valid) record.batchID).trans (Function.update_self _ _ _)

/-- The counters of every stored batch count its members, its flags follow from
them, and its aggregate depends only on the first outcome of each member and on
whether `CancelBatch` ran. -/
theorem batches_have_closed_form :
    (∀ (calls : List BatchCall) (batchID : String) (batch : MemoryBatch),
      (empty.runBatches calls).batch batchID = some batch -> (batch.jobs.map Prod.fst).Nodup ∧
        batch.state.total = batch.jobs.length ∧
        batch.state.pending = (batch.jobs.countP fun entry => !entry.2.done) ∧
        batch.state.processed = (batch.jobs.countP fun entry => entry.2.done) ∧
        batch.state.failed = (batch.jobs.countP fun entry => entry.2.done && entry.2.failed) ∧
        (batch.state.cancelled = true ↔ cancelledSinceCreation batchID calls = true ∨
            (batch.state.allowFailed = false ∧ 0 < batch.state.failed)) ∧
        (batch.state.completed = true ↔ batch.state.pending = 0 ∨ batch.state.cancelled = true)) ∧
    (∀ (before during : List BatchCall) (record : BatchRecord) (now : Time),
      validateBatchRecord record = none ->
      BatchUndisturbed record.batchID (afterCreation before record now) during ->
        ∃ batch, ((afterCreation before record now).runBatches during).batch
            record.batchID = some batch ∧
          batch.jobs.map Prod.fst = record.jobs.map (·.jobID) ∧
          (∀ jobID status, KeyedList.find jobID batch.jobs = some status ->
              status.done = (firstOutcome record during jobID).isSome ∧
              (status.done && status.failed) = (firstOutcome record during jobID == some .failed)) ∧
          batch.state.aggregate = aggregateOf (record.jobs.map (·.jobID)) record.allowFailed
              (firstOutcome record during)
              (during.any (·.cancels record.batchID))) ∧
    (∀ (before during before' during' : List BatchCall) (record : BatchRecord) (now now' : Time),
      validateBatchRecord record = none ->
      BatchUndisturbed record.batchID (afterCreation before record now) during ->
      BatchUndisturbed record.batchID (afterCreation before' record now') during' ->
      (∀ job ∈ record.jobs, firstOutcome record during job.jobID =
        firstOutcome record during' job.jobID) ->
      during.any (·.cancels record.batchID) = during'.any (·.cancels record.batchID) ->
        ∃ batch batch', ((afterCreation before record now).runBatches during).batch
            record.batchID = some batch ∧
          ((afterCreation before' record now').runBatches during').batch
            record.batchID = some batch' ∧
          batch.state.aggregate = batch'.state.aggregate) := by
  refine ⟨?_, ?_, ?_⟩
  · intro calls batchID batch stored
    have consistent := batchesConsistent_run calls batchID batch stored
    exact ⟨consistent.distinct, consistent.total_eq, consistent.pending_eq, consistent.processed_eq,
      consistent.failed_eq, consistent.cancelled_iff, consistent.completed_iff⟩
  · intro before during record now valid undisturbed
    obtain ⟨batch, stored, consistent, ledger⟩ :=
      undisturbed.ledger valid (afterCreation_batch valid)
    refine ⟨batch, stored, ledger.members, ?_, ledger.aggregate_eq consistent⟩
    intro jobID status found
    exact ⟨ledger.done_eq jobID status found, ledger.failed_eq jobID status found⟩
  · intro before during before' during' record now now' valid
      undisturbed undisturbed' sameOutcomes sameCancel
    obtain ⟨batch, stored, consistent, ledger⟩ :=
      undisturbed.ledger valid (afterCreation_batch valid)
    obtain ⟨batch', stored', consistent', ledger'⟩ :=
      undisturbed'.ledger valid (afterCreation_batch valid)
    refine ⟨batch, batch', stored, stored', ?_⟩
    rw [ledger.aggregate_eq consistent, ledger'.aggregate_eq consistent', sameCancel]
    apply aggregateOf_congr
    intro member listed
    obtain ⟨job, inRecord, rfl⟩ := List.mem_map.mp listed
    exact sameOutcomes job inRecord

/-- A batch of two members that stops at the first failure. -/
def twoMemberRecord : BatchRecord where
  batchID := "batch"
  dispatchID := "dispatch"
  name := ""
  queue := ""
  allowFailed := false
  jobs :=
    [{ jobID := "first", job := { jobType := "extract" } },
      { jobID := "second", job := { jobType := "load" } }]
  createdAt := 0

/-- Two schedules of a batch, one with duplicate and contradictory
settlements, that reach the same aggregate. -/
theorem batches_have_closed_form_two_members :
    ∃ batch batch', ((afterCreation [] twoMemberRecord 0).runBatches
        [.settleBatchOutcome "batch" "first" .succeeded {} 1,
          .settleBatchOutcome "batch" "second" .failed {} 2]).batch "batch" =
        some batch ∧
      ((afterCreation [] twoMemberRecord 5).runBatches
        [.settleBatchOutcome "batch" "second" .failed {} 6,
          .settleBatchOutcome "batch" "second" .succeeded {} 7,
          .markBatchJobStarted "batch" "first" 8,
          .settleBatchOutcome "batch" "first" .succeeded {} 9,
          .settleBatchOutcome "batch" "first" .failed {} 10]).batch "batch" =
        some batch' ∧
      batch.state.aggregate = batch'.state.aggregate :=
  batches_have_closed_form.2.2 [] _ [] _ twoMemberRecord 0 5 rfl
    (by decide) (by decide) (by decide) rfl

end MemoryStore

end JobQueue.Workflow
