import JobQueue.Workflow.Runs.ChainChanges

/-!
# How stored batches change

What matters about a stored batch is summarised by its flags, its pending
counter and the number of members without an outcome. An operation leaves the
summary alone, settles one member or cancels the batch, in both built-in
stores.
-/

namespace JobQueue.Workflow

open Interleaving

/-- Flags and counters of a batch that decide what may still happen to it. -/
structure BatchSummary where
  allowFailed : Bool
  completed : Bool
  cancelled : Bool
  pending : Int
  /-- Members without an outcome. -/
  undone : Nat
  deriving DecidableEq, Repr

/-- Members without an outcome. -/
def undoneMembers (jobs : List (String × BatchJobStatus)) : Nat :=
  jobs.countP fun entry => !entry.2.done

/-- The summary of a stored batch. -/
def MemoryBatch.summary (batch : MemoryBatch) : BatchSummary where
  allowFailed := batch.state.allowFailed
  completed := batch.state.completed
  cancelled := batch.state.cancelled
  pending := batch.state.pending
  undone := undoneMembers batch.jobs

/-- The summary of the batch under an identifier. -/
def Backend.summary (backend : Backend) (id : String) : Option BatchSummary :=
  (backend.batch id).map MemoryBatch.summary

/-- One member gets an outcome. -/
structure BatchSummary.Settles (failure : Bool) (before after : BatchSummary) : Prop where
  allowFailed : after.allowFailed = before.allowFailed
  undone : after.undone + 1 = before.undone
  cancelled : after.cancelled = (before.cancelled || (failure && !before.allowFailed))
  completed : after.completed = (before.completed || (failure && !before.allowFailed) ||
      decide (before.pending ≤ 1))
  pending : 0 < before.pending -> after.pending = before.pending - 1

/-- The batch is cancelled. -/
def BatchSummary.cancel (summary : BatchSummary) : BatchSummary :=
  { summary with completed := true, cancelled := true }

variable {jobID : String} {status : BatchJobStatus} {operation : Op}

theorem undoneMembers_replace (found : KeyedList.find jobID jobs = some status)
    (unsettled : status.done = false) (done : settled.done = true) :
    undoneMembers (KeyedList.replace jobID settled jobs) + 1 = undoneMembers jobs := by
  have counted := KeyedList.countP_replace
    (fun entry : String × BatchJobStatus => !entry.2.done) found settled
  simpa [undoneMembers, unsettled, done] using counted

theorem undoneMembers_replace_same (found : KeyedList.find jobID jobs = some status)
    {other : BatchJobStatus} (same : other.done = status.done) :
    undoneMembers (KeyedList.replace jobID other jobs) = undoneMembers jobs := by
  have counted := KeyedList.countP_replace
    (fun entry : String × BatchJobStatus => !entry.2.done) found other
  simpa [undoneMembers, same] using counted

/-! ## Operations -/

/-- The member that an operation settles, and whether as a failure. -/
def Op.settles : Op -> Option (String × String × Bool)
  | .memory (.settleBatchOutcome batchID jobID outcome _) =>
    some (batchID, jobID, decide (outcome = .failed))
  | .sql (.settleBatch batchID jobID isFailure _) => some (batchID, jobID, isFailure)
  | _ => none

/-- The batch that an operation cancels. -/
def Op.cancels : Op -> Option String
  | .memory (.cancelBatch batchID) => some batchID
  | .sql (.cancelBatch batchID) => some batchID
  | _ => none

/-- The batch that an operation creates. -/
def Op.createsBatch : Op -> Option String
  | .memory (.createBatch record) => some record.batchID
  | .sql (.insertBatch record) => some record.batchID
  | _ => none

/-- What an operation can do to the batch under an identifier. -/
inductive SummaryEffect (operation : Op) (id : String) (before after : Option BatchSummary) : Prop
  | same (unchanged : after = before)
  | settled (jobID : String) (failure : Bool)
      (settles : operation.settles = some (id, jobID, failure)) (old new : BatchSummary)
      (stored : before = some old) (updated : after = some new) (settled : old.Settles failure new)
  | cancelled (cancels : operation.cancels = some id) (old : BatchSummary)
      (stored : before = some old) (updated : after = some old.cancel)
  | created (creates : operation.createsBatch = some id) (state : BatchSummary)
      (stored : after = some state) (incomplete : state.completed = false)
      (uncancelled : state.cancelled = false) (counted : state.pending = state.undone)

namespace MemoryStore

/-- Summaries of the stored batches. -/
def summaries (store : MemoryStore) (id : String) : Option BatchSummary :=
  (store.batch id).map MemoryBatch.summary

theorem summaries_setBatch (store : MemoryStore) (batch : MemoryBatch) :
    (store.setBatch batchID batch).summaries =
      Function.update store.summaries batchID (some batch.summary) := by
  funext id
  by_cases same : id = batchID
  · subst same
    simp [summaries]
  · simp [summaries, Function.update_of_ne same]

/-- A settlement claimed by the memory store settles one member. -/
theorem settledMember_settles
    {batch : MemoryBatch} (found : KeyedList.find jobID batch.jobs = some status)
    (unsettled : status.done = false) (failure : Bool) (now : Time) :
    batch.summary.Settles failure (settledMember batch jobID status failure now).summary where
  allowFailed := rfl
  undone := undoneMembers_replace found unsettled rfl
  cancelled := by
    simp only [MemoryBatch.summary, settledMember, settledState]
    cases failure <;> cases batch.state.allowFailed <;> cases batch.state.cancelled <;> rfl
  completed := by
    simp only [MemoryBatch.summary, settledMember, settledState]
    have bounds : (batch.state.pending - 1 ≤ 0) ↔ (batch.state.pending ≤ 1) := by omega
    by_cases last : batch.state.pending ≤ 1 <;>
      simp only [bounds, last, if_true, if_false, decide_true, decide_false,
        Bool.or_true, Bool.or_false] <;>
      cases failure <;> cases batch.state.allowFailed <;>
      cases batch.state.completed <;> rfl
  pending := fun _ => rfl

end MemoryStore

theorem SummaryEffect.of_update
    (effect : SummaryEffect operation batchID (before batchID) (some state)) (id : String) :
    SummaryEffect operation id (before id) (Function.update before batchID (some state) id) := by
  by_cases same : id = batchID
  · subst same
    rw [Function.update_self]
    exact effect
  · exact .same (Function.update_of_ne same _ _)

theorem MemoryStore.summaries_claimSettlement (store : MemoryStore) (batch : MemoryBatch)
    (batchID jobID : String) (now : Time) :
    (store.claimSettlement batch batchID jobID status outcome claim now).2.summaries =
      Function.update store.summaries batchID (some (settledMember batch jobID status
          (decide (outcome = .failed)) now).summary) := by
  rw [← summaries_setBatch]
  funext id
  simp [summaries]

theorem summaryEffect_settleBatchOutcome
    (store : MemoryStore) (claim : TransitionClaim) (id : String) :
    SummaryEffect (.memory (.settleBatchOutcome batchID jobID outcome claim)) id
      (store.summaries id)
      ((store.settleBatchOutcome batchID jobID outcome claim now).2.summaries id) := by
  cases stored : store.batch batchID with
  | none =>
    unfold MemoryStore.settleBatchOutcome
    split
    · exact .same rfl
    · simp only [stored]
      exact .same rfl
  | some batch =>
    have found : store.summaries batchID = some batch.summary := by
      simp [MemoryStore.summaries, stored]
    have answer := MemoryStore.settleBatchOutcome_cases stored jobID outcome claim now
    generalize store.settleBatchOutcome batchID jobID outcome claim now = result at answer
    cases answer with
    | refused => exact .same rfl
    | foreign => exact .same rfl
    | replayed =>
      rw [MemoryStore.summaries_setBatch]
      exact SummaryEffect.of_update (.same found.symm) id
    | claimed status supported member unsettled matching =>
      rw [MemoryStore.summaries_claimSettlement]
      exact SummaryEffect.of_update (.settled jobID _ rfl _ _ found rfl
        (MemoryStore.settledMember_settles member unsettled _ now)) id

theorem undoneMembers_created (jobs : List BatchJob) :
    undoneMembers (jobs.map fun job => (job.jobID, {})) = jobs.length := by
  simp [undoneMembers, List.countP_map, Function.comp_def]

theorem summaryEffect_memory (id : String) :
    SummaryEffect (.memory call) id (store.summaries id) ((call.run store now).2.summaries id) := by
  cases call with
  | createChain | advanceChainOutcome | failChainOutcome | failChain =>
    exact .same (by simp [MemoryStore.summaries, MemoryCall.run])
  | settleBatchOutcome batchID jobID outcome claim =>
    exact summaryEffect_settleBatchOutcome store claim id
  | createBatch record =>
    simp only [MemoryCall.run, MemoryStore.createBatch]
    split
    · exact .same rfl
    · rw [MemoryStore.summaries_setBatch]
      refine SummaryEffect.of_update (.created rfl _ rfl rfl rfl ?_) id
      simp [MemoryBatch.summary, MemoryStore.createdBatch, undoneMembers_created]
  | markBatchJobStarted batchID jobID =>
    simp only [MemoryCall.run, MemoryStore.markBatchJobStarted]
    split
    · exact .same rfl
    rename_i batch stored
    split
    · exact .same rfl
    rename_i status found
    rw [MemoryStore.summaries_setBatch]
    refine SummaryEffect.of_update (.same ?_) id
    simp only [MemoryStore.summaries, stored, Option.map_some, MemoryBatch.summary]
    rw [@undoneMembers_replace_same jobID status batch.jobs found
      { status with started := true } rfl]
  | cancelBatch batchID =>
    simp only [MemoryCall.run, MemoryStore.cancelBatch]
    split
    · exact .same rfl
    rename_i batch stored
    rw [MemoryStore.summaries_setBatch]
    refine SummaryEffect.of_update (.cancelled rfl batch.summary ?_ rfl) id
    simp [MemoryStore.summaries, stored]
  | markCallbackInvoked key =>
    simp only [MemoryCall.run, MemoryStore.markCallbackInvoked]
    split <;> exact .same rfl
  | _ => exact .same rfl

/-! ## Statements of the SQL store -/

namespace Database

/-- The rows of all batches. -/
def batchRows (db : Database) :
    (String -> Option BatchState) × (String -> List (String × BatchJobStatus)) :=
  (db.batches, db.batchJobs)

/-- Summaries of the stored batches. -/
def summaries (db : Database) (id : String) : Option BatchSummary :=
  (db.batches id).map fun state =>
    MemoryBatch.summary { state := state, jobs := db.batchJobs id }

variable {db : Database}

theorem summaries_congr {after : Database} (same : after.batchRows = db.batchRows) :
    after.summaries = db.summaries := by
  simp only [batchRows, Prod.mk.injEq] at same
  funext id
  simp [summaries, same.1, same.2]

/-- The transaction of a settlement settles one member. -/
theorem settledRow_settles (found : KeyedList.find jobID jobs = some status)
    (unsettled : status.done = false) (failure : Bool) (now : Time) :
    (MemoryBatch.summary { state := row, jobs := jobs }).Settles failure
      (MemoryBatch.summary
        { state := settledRow row failure now
          jobs := KeyedList.replace jobID
            { started := true, done := true, failed := failure } jobs }) where
  allowFailed := rfl
  undone := undoneMembers_replace found unsettled rfl
  cancelled := by
    simp only [MemoryBatch.summary, settledRow]
    cases failure <;> cases row.allowFailed <;> cases row.cancelled <;> rfl
  completed := by
    simp only [MemoryBatch.summary, settledRow]
    by_cases last : row.pending ≤ 1
    · simp [last]
    · simp only [last, false_or, decide_false, Bool.or_false]
      cases failure <;> cases row.allowFailed <;> cases row.completed <;> rfl
  pending := fun positive => by
    have positive : 0 < row.pending := positive
    simp [MemoryBatch.summary, settledRow, positive]

/-- Replacing one row and its members changes one summary. -/
theorem summaries_update
    (db : Database) (batchID : String) (jobs : List (String × BatchJobStatus)) :
    Database.summaries
        { db with
          transitionReceipts := receipts
          batches := Function.update db.batches batchID (some row)
          batchJobs := Function.update db.batchJobs batchID jobs } =
      Function.update db.summaries batchID
        (some (MemoryBatch.summary { state := row, jobs := jobs })) := by
  funext id
  by_cases same : id = batchID
  · subst same
    simp [summaries]
  · simp [summaries, Function.update_of_ne same]

theorem summaries_setBatch (db : Database) (row : BatchState) :
    (db.setBatch batchID row).summaries = Function.update db.summaries batchID
        (some (MemoryBatch.summary { state := row, jobs := db.batchJobs batchID })) := by
  rw [← summaries_update db batchID _, Function.update_eq_self]
  rfl

end Database

theorem summaryEffect_settleBatch (jobID : String) (id : String) :
    SummaryEffect (.sql (.settleBatch batchID jobID isFailure claim)) id (db.summaries id)
      (((Statement.settleBatch batchID jobID isFailure claim).run db now
        fault).2.summaries id) := by
  rcases Statement.transact_database db
    (db.settleBatchBody batchID jobID isFailure claim now) fault with
    same | ⟨row, final, committed, same⟩
  · simp only [Statement.run, same]
    exact .same rfl
  simp only [Statement.run, same]
  obtain ⟨initial, status, stored, found, ended⟩ := Database.settleBatchBody_committed committed
  have before : db.summaries batchID = some (MemoryBatch.summary
      { state := initial, jobs := db.batchJobs batchID }) := by
    simp [Database.summaries, stored]
  rcases ended with rfl | ⟨receipts, unsettled, rfl⟩
  · rw [Database.summaries_setBatch]
    exact SummaryEffect.of_update (.same before.symm) id
  · rw [Database.summaries_update]
    exact SummaryEffect.of_update (.settled jobID isFailure rfl _ _ before rfl
      (Database.settledRow_settles found unsettled isFailure now)) id

theorem summaryEffect_sql (db : Database) (now : Time) (fault : Option Fault)
    (statement : Statement) (id : String) :
    SummaryEffect (.sql statement) id (db.summaries id)
      ((statement.run db now fault).2.summaries id) := by
  have unchanged : ∀ after : Database, after.batchRows = db.batchRows ->
      SummaryEffect (.sql statement) id (db.summaries id) (after.summaries id) :=
    fun after same => .same (congrFun (Database.summaries_congr same) id)
  cases statement with
  | insertChain record =>
    refine unchanged _ (Statement.execute_keeps Database.batchRows ?_ fault)
    split
    · rfl
    · rename_i after inserted
      obtain ⟨_, state, _, rfl⟩ := Database.insertChain_eq inserted
      rfl
  | failChain chainID cause =>
    refine unchanged _ (Statement.execute_keeps Database.batchRows ?_ fault)
    simp only [Database.failChain]
    split
    · rfl
    · split <;> rfl
  | advanceChain chainID nodeID state claim =>
    refine unchanged _ (Statement.transact_keeps Database.batchRows
      (fun result final committed => ?_))
    obtain ⟨_, _, _, _, _, rfl⟩ := Database.advanceChainBody_committed committed
    rfl
  | failChainNode chainID nodeID state cause claim =>
    refine unchanged _ (Statement.transact_keeps Database.batchRows
      (fun result final committed => ?_))
    obtain ⟨_, _, _, _, rfl⟩ := Database.failChainBody_committed committed
    rfl
  | insertBatch record =>
    rcases Statement.transact_database db (db.insertBatchBody record now)
      fault with same | ⟨answer, final, committed, same⟩
    · exact unchanged _ (by simp only [Statement.run, same])
    · simp only [Statement.run, same]
      obtain ⟨created, rfl⟩ := Database.insertBatchBody_committed committed
      rw [Database.summaries_update]
      refine SummaryEffect.of_update (.created rfl _ rfl rfl rfl ?_) id
      simp [MemoryBatch.summary, undoneMembers_created]
  | settleBatch batchID jobID isFailure claim => exact summaryEffect_settleBatch jobID id
  | startMember batchID jobID =>
    rcases Statement.execute_database db
      ((.ok (db.startMember batchID jobID).1 : Except GoError Nat),
      (db.startMember batchID jobID).2) fault with same | same
    · exact unchanged _ (by simp only [Statement.run, same])
    simp only [Statement.run, same]
    refine .same (congrFun ?_ id)
    unfold Database.startMember
    split
    · rfl
    rename_i status found
    funext other
    by_cases same : other = batchID
    · subst same
      simp [Database.summaries, MemoryBatch.summary,
        @undoneMembers_replace_same jobID status _ found { status with started := true } rfl]
    · simp [Database.summaries, Function.update_of_ne same]
  | cancelBatch batchID =>
    rcases Statement.execute_database db
      ((.ok () : Except GoError Unit), db.cancelBatch batchID now) fault with
      same | same
    · exact unchanged _ (by simp only [Statement.run, same])
    simp only [Statement.run, same]
    unfold Database.cancelBatch
    split
    · exact .same rfl
    rename_i row stored
    rw [Database.summaries_setBatch]
    refine SummaryEffect.of_update (.cancelled rfl (MemoryBatch.summary
      { state := row, jobs := db.batchJobs batchID }) ?_ rfl) id
    simp [Database.summaries, stored]
  | insertCallbackInvocation key =>
    refine unchanged _ (Statement.execute_keeps Database.batchRows ?_ fault)
    simp only [Database.insertCallbackInvocation]
    split <;> rfl
  | selectChain | selectReceipt | selectMemberOutcomes | selectMember
  | selectBatch => exact unchanged _ (Statement.execute_keeps Database.batchRows rfl fault)

/-! ## Steps -/

/-- The batch a committed transition is about. -/
def Transition.batch? : Transition -> Option String
  | .chainCompleted _ => none
  | .chainFailed _ => none
  | .batchCompleted batchID => some batchID
  | .batchCancelled batchID _ => some batchID

/-- Flags that were set, by summaries. -/
def summaryTransitions (batchID : String) (member : Option String) :
    Option BatchSummary -> Option BatchSummary -> List Transition
  | some before, some after =>
    (if !before.completed && after.completed && !after.cancelled then
      [.batchCompleted batchID] else []) ++
    (if !before.cancelled && after.cancelled then
      [.batchCancelled batchID member] else [])
  | _, _ => []

theorem batchTransitions_eq :
    batchTransitions batchID member before after =
      summaryTransitions batchID member (before.map MemoryBatch.summary)
        (after.map MemoryBatch.summary) := by
  cases before <;> cases after <;> rfl

/-- The member whose settlement the operation is. -/
def Op.member (operation : Op) : Option String :=
  operation.settles.map fun settled => settled.2.1

theorem batch?_of_mem_summaryTransitions
    (listed : transition ∈ summaryTransitions batchID member before after) :
    transition.batch? = some batchID := by
  unfold summaryTransitions at listed
  split at listed
  · simp only [List.mem_append, List.mem_ite_nil_right, List.mem_singleton] at listed
    rcases listed with ⟨_, rfl⟩ | ⟨_, rfl⟩ <;> rfl
  · cases listed

theorem batch?_of_mem_chainTransitions
    (listed : transition ∈ chainTransitions chainID before after) :
    transition.batch? = none := by
  unfold chainTransitions at listed
  split at listed
  · simp only [List.mem_append, List.mem_ite_nil_right, List.mem_singleton] at listed
    rcases listed with ⟨_, rfl⟩ | ⟨_, rfl⟩ <;> rfl
  · cases listed

@[simp] theorem summaryTransitions_self :
    summaryTransitions batchID member summary summary = [] := by
  cases summary with
  | none => rfl
  | some summary =>
    cases completed : summary.completed <;> cases cancelled : summary.cancelled <;>
      simp [summaryTransitions, completed, cancelled]

/-- A batch is only targeted by a settlement of the named member, or by a
cancellation. -/
theorem Op.member_eq_of_target {member : Option String}
    (target : operation.target = .batch batchID member) :
    operation.member = member := by
  cases operation with
  | memory call => cases call <;> cases target <;> rfl
  | sql statement => cases statement <;> cases target <;> rfl
  | _ => cases target

namespace World

/-- What a step does to a stored batch. -/
theorem exec_batch (executed : exec label w operation choice = some (some answer, after))
    (id : String) :
    SummaryEffect operation id (w.backend.summary id) (after.backend.summary id) := by
  by_cases store : operation.aspect = .store
  · cases operation with
    | memory call =>
      obtain ⟨store, found, _, rfl⟩ := exec_memory executed
      rw [found]
      exact summaryEffect_memory id
    | sql statement =>
      obtain ⟨db, fault, found, _, rfl⟩ := exec_sql executed
      rw [found]
      have effect := summaryEffect_sql db w.clock fault statement id
      simpa [Database.summaries, Backend.summary, Backend.batch,
        Option.map_map, Function.comp_def] using effect
    | _ => cases store
  · exact .same (by rw [(exec_touched executed).backend store])

/-- The history of a batch gains exactly the flags that were set. -/
theorem exec_batchTransitions (executed : exec label w operation choice = some (some answer, after))
    {id : String} (about : transition.batch? = some id) (owner : Nat) :
    (owner, transition) ∈ after.transitions ↔ (owner, transition) ∈ w.transitions ∨
        (owner = label ∧ transition ∈ summaryTransitions id operation.member
          (w.backend.summary id) (after.backend.summary id)) := by
  have quiet (missed : ∀ member, operation.target ≠ .batch id member) :
      summaryTransitions id operation.member (w.backend.summary id)
        (after.backend.summary id) = [] := by
    rcases exec_batch executed id with
      same | ⟨jobID, failure, settles, _⟩ | ⟨cancels, _⟩ |
      ⟨_, state, stored, incomplete, uncancelled, _⟩
    · rw [same, summaryTransitions_self]
    · unfold Op.settles at settles
      split at settles <;> cases settles <;> exact absurd rfl (missed _)
    · unfold Op.cancels at cancels
      split at cancels <;> cases cancels <;> exact absurd rfl (missed _)
    · rw [stored]
      cases w.backend.summary id <;> simp [summaryTransitions, incomplete, uncancelled]
  rw [exec_transitions executed]
  refine or_congr_right (and_congr_right fun _ => ?_)
  cases target : operation.target with
  | none =>
    rw [quiet (by simp [target])]
    rfl
  | chain chainID =>
    rw [quiet (by simp [target])]
    refine ⟨fun listed => ?_, fun impossible => by cases impossible⟩
    rw [batch?_of_mem_chainTransitions listed] at about
    cases about
  | batch batchID member =>
    rw [Target.transitions, batchTransitions_eq, Op.member_eq_of_target target]
    by_cases same : batchID = id
    · subst same
      rfl
    · rw [← Op.member_eq_of_target target, quiet (by simp [target, same])]
      refine ⟨fun listed => ?_, fun impossible => by cases impossible⟩
      rw [batch?_of_mem_summaryTransitions listed] at about
      exact absurd (Option.some.inj about) same

end World

end JobQueue.Workflow
