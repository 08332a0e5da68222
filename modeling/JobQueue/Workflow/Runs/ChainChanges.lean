import JobQueue.Workflow.Store.SqlReceipts
import JobQueue.Workflow.Runs.Steps

/-!
# How stored chains change

A store call leaves a stored chain alone, moves a running chain on, or fails a
running chain. This holds of both built-in stores, whatever the calls are
answered, and the committed transitions of the history are exactly the flags
that were set.
-/

namespace JobQueue.Workflow

open Interleaving

/-- How a store call can change the stored state of a chain. -/
inductive ChainChange : Option ChainState -> Option ChainState -> Prop
  | same (state : Option ChainState) : ChainChange state state
  | advanced {before after : ChainState}
      (running : before.terminal = false) (unfailed : after.failed = false) :
      ChainChange (some before) (some after)
  | failed {before after : ChainState} (running : before.terminal = false)
      (failed : after.failed = true) (incomplete : after.completed = false) :
      ChainChange (some before) (some after)

theorem ChainChange.advance
    (running : before.terminal = false) (same : after.failed = before.failed) :
    ChainChange (some before) (some after) :=
  .advanced running (same.trans (Bool.or_eq_false_iff.mp running).2)

theorem ChainChange.fail (running : before.terminal = false) (failed : after.failed = true)
    (same : after.completed = before.completed) :
    ChainChange (some before) (some after) :=
  .failed running failed (same.trans (Bool.or_eq_false_iff.mp running).1)

theorem ChainChange.ne_none_iff (changed : ChainChange before after) :
    before ≠ none ↔ after ≠ none := by
  cases changed <;> simp

variable {chainID : String}

/-- At most the chain of one identifier was changed. -/
def ChainsChange (target : String) (before after : String -> Option ChainState) : Prop :=
  ChainChange (before target) (after target) ∧ ∀ id, id ≠ target -> after id = before id

theorem ChainsChange.same : ChainsChange target chains chains :=
  ⟨.same _, fun _ _ => rfl⟩

theorem ChainsChange.update (stored : chains target = some before)
    (changed : ChainChange (some before) (some after)) :
    ChainsChange target chains (Function.update chains target (some after)) := by
  refine ⟨?_, fun id different => Function.update_of_ne different _ _⟩
  rw [Function.update_self, stored]
  exact changed

namespace MemoryStore

variable (store : MemoryStore)

/-- Stored states of a memory store. -/
def states (id : String) : Option ChainState :=
  (store.chains id).map (·.state)

theorem states_of_stored {store : MemoryStore} (stored : store.chains chainID = some chain) :
    store.states chainID = some chain.state := by
  simp [states, stored]

theorem states_setChain (chainID : String) : (store.setChain chainID chain).states =
      Function.update store.states chainID (some chain.state) := by
  funext id
  by_cases same : id = chainID
  · subst same
    simp [states]
  · simp [states, Function.update_of_ne same]

theorem states_recordTransitionReceipt :
    (store.recordTransitionReceipt kind workflowID workflowDispatchID
      workflowCreatedAt memberID outcome claim aggregateCompleted
      aggregateCancelled now).2.states = store.states := by
  funext id
  simp [states]

theorem advanceChainOutcome_change (chainID : String) : ChainsChange chainID store.states
      (store.advanceChainOutcome chainID nodeID claim now).2.states := by
  unfold advanceChainOutcome
  split
  · exact .same
  rename_i chain stored
  split
  · exact .same
  split
  · exact .same
  rename_i disposition disposed
  split
  · split <;> exact .same
  rename_i claimable
  split
  · exact .same
  obtain ⟨running, _⟩ := isCurrent_of_advance_claimable disposed (by simpa using claimable)
  dsimp only
  split
  all_goals
    rw [states_recordTransitionReceipt, states_setChain]
    exact .update (states_of_stored stored) (.advance running rfl)

theorem failChainOutcome_change (nodeID : String) : ChainsChange chainID store.states
      (store.failChainOutcome chainID nodeID cause claim now).2.states := by
  unfold failChainOutcome
  split
  · exact .same
  rename_i chain stored
  split
  · exact .same
  rename_i disposition disposed
  split
  · split <;> exact .same
  rename_i claimable
  split
  · exact .same
  obtain ⟨running, _⟩ := isCurrent_of_failure_claimable disposed (by simpa using claimable)
  rw [states_recordTransitionReceipt, states_setChain]
  exact .update (states_of_stored stored) (.fail running rfl rfl)

theorem failChain_change (chainID : String) :
    ChainsChange chainID store.states (store.failChain chainID cause now).2.states := by
  cases stored : store.chains chainID with
  | none =>
    rw [failChain, stored]
    exact .same
  | some chain =>
    rcases failChain_cases stored cause now with ⟨running, same⟩ | ⟨_, same⟩
    · rw [same, states_setChain]
      exact .update (states_of_stored stored) (.fail running rfl rfl)
    · rw [same]
      exact .same

end MemoryStore

/-! ## Statements of the SQL store -/

namespace Statement

variable {β γ : Type}

theorem execute_database (db : Database) (effect : Except GoError β × Database)
    (fault : Option Fault) :
    (execute db effect fault).2 = db ∨ (execute db effect fault).2 = effect.2 := by
  rcases fault with _ | _ | ⟨error, _ | _⟩
  · exact .inr rfl
  · exact .inl rfl
  · exact .inl rfl
  · exact .inr rfl

theorem transact_database (db : Database) (body : TxBody β) (fault : Option Fault) :
    (transact db body fault).2 = db ∨ ∃ result final, body = .committed result final ∧
        (transact db body fault).2 = final := by
  cases body with
  | aborted error => rcases fault with _ | _ | _ <;> exact .inl rfl
  | rolledBack result => rcases fault with _ | _ | _ <;> exact .inl rfl
  | committed result final =>
    rcases fault with _ | _ | ⟨error, _ | _⟩
    · exact .inr ⟨result, final, rfl, rfl⟩
    · exact .inl rfl
    · exact .inl rfl
    · exact .inr ⟨result, final, rfl, rfl⟩

/-- What the effect of a statement leaves alone, the statement leaves alone. -/
theorem execute_keeps (field : Database -> γ) (kept : field effect.2 = field db)
    (fault : Option Fault) :
    field (execute db effect fault).2 = field db := by
  rcases execute_database db effect fault with same | same
  · rw [same]
  · rw [same, kept]

/-- What the body of a transaction leaves alone, the transaction leaves
alone. -/
theorem transact_keeps (field : Database -> γ) {body : TxBody β}
    (kept : ∀ result final, body = .committed result final -> field final = field db) :
    field (transact db body fault).2 = field db := by
  rcases transact_database db body fault with same | ⟨result, final, committed, same⟩
  · rw [same]
  · rw [same, kept result final committed]

end Statement

namespace Database

variable {db : Database}

theorem insertChain_eq (inserted : db.insertChain record now = .ok after) :
    db.chains record.chainID = none ∧ ∃ state, state.terminal = false ∧ after =
          { db with chains := Function.update db.chains record.chainID (some state) } := by
  unfold insertChain at inserted
  split at inserted
  · cases inserted
  · rename_i absent
    cases inserted
    exact ⟨absent, _, rfl, rfl⟩

/-- What a committed advance does to the rows it updates. -/
theorem advanceChainBody_committed
    (committed : db.advanceChainBody chainID nodeID state claim now = .committed result final) :
    ∃ row receipts succeeded, db.chains chainID = some row ∧ row.terminal = false ∧ final =
        { db with
          transitionReceipts := receipts
          chainCompletedNodes := succeeded
          chains := Function.update db.chains chainID (some
              { row with
                nextIndex := row.nextIndex + 1
                completed := row.completed ||
                  decide ((state.nodes.length : Int) ≤ state.nextIndex + 1)
                updatedAt := storedInstant now }) } := by
  unfold advanceChainBody at committed
  split at committed
  · cases committed
  rename_i row unmoved
  obtain ⟨stored, _, incomplete, unfailed⟩ := chainUnmoved_eq_some unmoved
  dsimp only at committed
  split at committed
  · cases committed
  rename_i receipt after inserted
  cases committed
  refine ⟨row, final.transitionReceipts, _, stored, ?_, insertTransitionReceipt_eq inserted⟩
  simp [ChainState.terminal, incomplete, unfailed]

/-- What a committed failure does to the rows it updates. -/
theorem failChainBody_committed
    (committed : db.failChainBody chainID nodeID state cause claim now = .committed result final) :
    ∃ row receipts, db.chains chainID = some row ∧ row.terminal = false ∧ final =
        { db with
          transitionReceipts := receipts
          chains := Function.update db.chains chainID (some
              { row with
                failed := true
                failure := (cause.map GoError.message).getD ""
                updatedAt := storedInstant now }) } := by
  unfold failChainBody at committed
  split at committed
  · cases committed
  rename_i row unmoved
  obtain ⟨stored, _, incomplete, unfailed⟩ := chainUnmoved_eq_some unmoved
  dsimp only at committed
  split at committed
  · cases committed
  rename_i receipt after inserted
  cases committed
  refine ⟨row, final.transitionReceipts, stored, ?_, insertTransitionReceipt_eq inserted⟩
  simp [ChainState.terminal, incomplete, unfailed]

/-- The transaction that advances a chain changes at most this chain. -/
theorem advanceChain_change (db : Database) (nodeID : String) (claim : TransitionClaim) :
    ChainsChange chainID db.chains
      ((Statement.advanceChain chainID nodeID state claim).run db now fault).2.chains := by
  rcases Statement.transact_database db
    (db.advanceChainBody chainID nodeID state claim now) fault with
    same | ⟨result, final, committed, same⟩
  · simp only [Statement.run, same]
    exact .same
  · obtain ⟨row, _, _, stored, running, rows⟩ := advanceChainBody_committed committed
    simp only [Statement.run, same, rows]
    exact .update stored (.advance running rfl)

/-- The transaction that fails a chain changes at most this chain. -/
theorem failChainNode_change (db : Database) (nodeID : String) (cause : Option GoError) :
    ChainsChange chainID db.chains
      ((Statement.failChainNode chainID nodeID state cause claim).run db now fault).2.chains := by
  rcases Statement.transact_database db
    (db.failChainBody chainID nodeID state cause claim now) fault with
    same | ⟨result, final, committed, same⟩
  · simp only [Statement.run, same]
    exact .same
  · obtain ⟨row, _, stored, running, rows⟩ := failChainBody_committed committed
    simp only [Statement.run, same, rows]
    exact .update stored (.fail running rfl rfl)

theorem failChain_change (db : Database) (chainID : String) (now : Time) :
    ChainsChange chainID db.chains
      ((Statement.failChain chainID cause).run db now fault).2.chains := by
  have effect : ChainsChange chainID db.chains (db.failChain chainID cause now).chains := by
    unfold failChain
    split
    · exact .same
    rename_i row stored
    split
    · exact .same
    rename_i running
    have running : row.terminal = false := by simpa [ChainState.terminal] using running
    exact .update stored (.fail running rfl rfl)
  rcases Statement.execute_database db
    (.ok (), db.failChain chainID cause now) fault with same | same
  · simp only [Statement.run, same]
    exact .same
  · simp only [Statement.run, same]
    exact effect

end Database

/-! ## Operations -/

/-- The workflow whose terminal flags an operation can set. -/
def Op.target : Op -> Target
  | .memory call => call.target
  | .sql statement => statement.target
  | _ => .none

/-- The chain that an operation creates. -/
def Op.createsChain : Op -> Option String
  | .memory (.createChain record) => some record.chainID
  | .sql (.insertChain record) => some record.chainID
  | _ => none

/-- What an operation can do to the chain under an identifier. -/
inductive ChainEffect (operation : Op) (id : String) (before after : Option ChainState) : Prop
  | same (unchanged : after = before)
  | changed (target : operation.target = .chain id) (changed : ChainChange before after)
  | created (creates : operation.createsChain = some id) (state : ChainState)
      (stored : after = some state) (running : state.terminal = false)

theorem ChainEffect.of_change (target : operation.target = .chain chainID)
    (changed : ChainsChange chainID before after) (id : String) :
    ChainEffect operation id (before id) (after id) := by
  by_cases same : id = chainID
  · subst same
    exact .changed target changed.1
  · exact .same (changed.2 id same)

theorem ChainEffect.of_update (creates : operation.createsChain = some chainID)
    (running : state.terminal = false) (id : String) :
    ChainEffect operation id (chains id) (Function.update chains chainID (some state) id) := by
  by_cases same : id = chainID
  · subst same
    exact .created creates state (Function.update_self _ _ _) running
  · exact .same (Function.update_of_ne same _ _)

theorem chainEffect_memory (store : MemoryStore) (now : Time) (call : MemoryCall) (id : String) :
    ChainEffect (.memory call) id (store.states id) ((call.run store now).2.states id) := by
  cases call with
  | createChain record =>
    simp only [MemoryCall.run, MemoryStore.createChain]
    split
    · exact .same rfl
    · rw [MemoryStore.states_setChain]
      exact ChainEffect.of_update rfl rfl id
  | advanceChainOutcome chainID nodeID claim =>
    exact ChainEffect.of_change rfl (store.advanceChainOutcome_change chainID) id
  | failChainOutcome chainID nodeID cause claim =>
    exact ChainEffect.of_change rfl (store.failChainOutcome_change nodeID) id
  | failChain chainID cause => exact ChainEffect.of_change rfl (store.failChain_change chainID) id
  | settleBatchOutcome | createBatch | markBatchJobStarted | cancelBatch =>
    exact .same (by simp [MemoryStore.states, MemoryCall.run])
  | markCallbackInvoked key =>
    simp only [MemoryCall.run, MemoryStore.markCallbackInvoked]
    split <;> exact .same rfl
  | _ => exact .same rfl

namespace Database

variable {db : Database}

/-- Only the receipts change. -/
theorem insertSettlementReceipts_eq
    (inserted : db.insertSettlementReceipts batchID jobID before after outcome
      claim now = .ok (receipt, final)) :
    final = { db with transitionReceipts := final.transitionReceipts } := by
  unfold insertSettlementReceipts at inserted
  dsimp only at inserted
  split at inserted
  · cases inserted
  · rename_i written member
    cases inserted
    exact insertTransitionReceipt_eq member
  rename_i persisted written member
  split at inserted
  · split at inserted
    · cases inserted
    · rename_i last aggregate
      cases inserted
      rw [insertTransitionReceipt_eq aggregate, insertTransitionReceipt_eq member]
    · rename_i last aggregate
      split at inserted <;> cases inserted <;>
        rw [insertTransitionReceipt_eq aggregate, insertTransitionReceipt_eq member]
  · cases inserted
    exact insertTransitionReceipt_eq member

/-- The receipt of a settlement tells whether it made the batch terminal. -/
theorem insertSettlementReceipts_valid (valid : claim.valid = true)
    (inserted : db.insertSettlementReceipts batchID jobID before after outcome claim now =
      .ok (persisted, final)) :
    ∃ receipt, persisted = some receipt ∧ receipt.owner = claim ∧ receipt.outcome = outcome ∧
      receipt.supported = true ∧
      receipt.aggregateCompleted = (!before.completed && after.completed) ∧
      receipt.aggregateCancelled = (receipt.aggregateCompleted && after.cancelled) := by
  unfold insertSettlementReceipts at inserted
  dsimp only at inserted
  split at inserted
  · cases inserted
  all_goals
    rename_i written
    obtain ⟨member, same, agrees, _⟩ := insertTransitionReceipt_valid valid written
    cases same
  rw [agrees] at inserted
  split at inserted
  · rename_i crosses
    split at inserted
    · cases inserted
    all_goals
      rename_i written
      obtain ⟨aggregate, same, owns, _⟩ := insertTransitionReceipt_valid valid written
      cases same
    rw [if_pos (by rw [owns]; rfl)] at inserted
    cases inserted
    exact ⟨_, rfl, rfl, rfl, rfl, crosses.symm, rfl⟩
  · rename_i crosses
    cases inserted
    exact ⟨_, rfl, rfl, rfl, rfl, (Bool.eq_false_iff.mpr crosses).symm, rfl⟩

/-- Everything a committed settlement can do to the rows. -/
theorem settleBatchBody_committed
    (committed : db.settleBatchBody batchID jobID isFailure claim now = .committed row final) :
    ∃ initial status, db.batches batchID = some initial ∧
      KeyedList.find jobID (db.batchJobs batchID) = some status ∧
      (final = db.setBatch batchID { initial with updatedAt := storedInstant now } ∨
        ∃ receipts, status.done = false ∧ final =
            { db with
              transitionReceipts := receipts
              batches := Function.update db.batches batchID
                (some (settledRow initial isFailure now))
              batchJobs := Function.update db.batchJobs batchID (KeyedList.replace jobID
                  { started := true, done := true, failed := isFailure }
                  (db.batchJobs batchID)) }) := by
  unfold settleBatchBody at committed
  split at committed
  · cases committed
  rename_i initial stored
  split at committed
  · cases committed
  rename_i status found
  refine ⟨initial, status, stored, found, ?_⟩
  dsimp only at committed
  split at committed
  · split at committed
    · cases committed
    split at committed
    · cases committed
    · cases committed
      exact .inl rfl
  rename_i unsettled
  split at committed
  · cases committed
  split at committed
  · cases committed
  · rename_i receipt last inserted
    cases committed
    exact .inr ⟨final.transitionReceipts, by simpa using unsettled,
      insertSettlementReceipts_eq inserted⟩

/-- A batch that is inserted has just been recorded. -/
theorem insertBatchBody_committed
    (committed : db.insertBatchBody record now = .committed answer final) :
    ∃ created, final =
        { db with
          batches := Function.update db.batches record.batchID
            (some (record.start created created))
          batchJobs := Function.update db.batchJobs record.batchID
            (record.jobs.map fun job => (job.jobID, {})) } := by
  unfold insertBatchBody at committed
  split at committed
  · cases committed
  · cases committed
    exact ⟨_, rfl⟩

end Database

theorem chainEffect_sql (id : String) :
    ChainEffect (.sql statement) id (db.chains id) ((statement.run db now fault).2.chains id) := by
  cases statement with
  | insertChain record =>
    cases inserted : db.insertChain record now with
    | error error =>
      simp only [Statement.run, inserted]
      rcases Statement.execute_database db ((.error error : Except GoError Unit), db)
        fault with same | same <;> exact .same (by rw [same])
    | ok after =>
      simp only [Statement.run, inserted]
      rcases Statement.execute_database db
        ((.ok () : Except GoError Unit), after) fault with same | same
      · exact .same (by rw [same])
      · obtain ⟨_, state, running, rfl⟩ := Database.insertChain_eq inserted
        rw [same]
        exact ChainEffect.of_update rfl running id
  | failChain chainID cause => exact ChainEffect.of_change rfl (db.failChain_change chainID now) id
  | advanceChain chainID nodeID state claim =>
    exact ChainEffect.of_change rfl (db.advanceChain_change nodeID claim) id
  | failChainNode chainID nodeID state cause claim =>
    exact ChainEffect.of_change rfl (db.failChainNode_change nodeID cause) id
  | insertBatch record =>
    exact .same (congrFun (Statement.transact_keeps Database.chains (fun _ _ committed => by
        obtain ⟨_, rfl⟩ := Database.insertBatchBody_committed committed
        rfl)) id)
  | settleBatch batchID jobID isFailure claim =>
    exact .same (congrFun (Statement.transact_keeps Database.chains (fun _ _ committed => by
        obtain ⟨_, _, _, _, rfl | ⟨_, _, rfl⟩⟩ :=
          Database.settleBatchBody_committed committed <;> rfl)) id)
  | startMember batchID jobID =>
    refine .same (congrFun (Statement.execute_keeps Database.chains ?_ fault) id)
    simp only [Database.startMember]
    split <;> rfl
  | cancelBatch batchID =>
    refine .same (congrFun (Statement.execute_keeps Database.chains ?_ fault) id)
    simp only [Database.cancelBatch]
    split <;> rfl
  | insertCallbackInvocation key =>
    refine .same (congrFun (Statement.execute_keeps Database.chains ?_ fault) id)
    simp only [Database.insertCallbackInvocation]
    split <;> rfl
  | selectChain | selectReceipt | selectMemberOutcomes | selectMember
  | selectBatch => exact .same (congrFun (Statement.execute_keeps Database.chains rfl fault) id)

/-! ## Steps -/

/-- The chain a committed transition is about. -/
def Transition.chain? : Transition -> Option String
  | .chainCompleted chainID => some chainID
  | .chainFailed chainID => some chainID
  | .batchCompleted _ => none
  | .batchCancelled _ _ => none

theorem chain?_of_mem_chainTransitions
    (listed : transition ∈ chainTransitions chainID before after) :
    transition.chain? = some chainID := by
  unfold chainTransitions at listed
  split at listed
  · simp only [List.mem_append, List.mem_ite_nil_right, List.mem_singleton] at listed
    rcases listed with ⟨_, rfl⟩ | ⟨_, rfl⟩ <;> rfl
  · cases listed

theorem chain?_of_mem_batchTransitions
    (listed : transition ∈ batchTransitions batchID member before after) :
    transition.chain? = none := by
  unfold batchTransitions at listed
  split at listed
  · simp only [List.mem_append, List.mem_ite_nil_right, List.mem_singleton] at listed
    rcases listed with ⟨_, rfl⟩ | ⟨_, rfl⟩ <;> rfl
  · cases listed

@[simp] theorem chainTransitions_self (state : Option ChainState) :
    chainTransitions chainID state state = [] := by
  cases state with
  | none => rfl
  | some state =>
    cases completed : state.completed <;> cases failed : state.failed <;>
      simp [chainTransitions, completed, failed]

namespace World

variable (executed : exec label w operation choice = some (some answer, after))
include executed

/-- What a step does to a stored chain. -/
theorem exec_chain (id : String) :
    ChainEffect operation id (w.backend.chain id) (after.backend.chain id) := by
  by_cases store : operation.aspect = .store
  · cases operation with
    | memory call =>
      obtain ⟨store, found, _, rfl⟩ := exec_memory executed
      rw [found]
      exact chainEffect_memory store w.clock call id
    | sql statement =>
      obtain ⟨db, fault, found, _, rfl⟩ := exec_sql executed
      rw [found]
      exact chainEffect_sql id
    | _ => cases store
  · exact .same (by rw [(exec_touched executed).backend store])

/-- The history gains the flags that an operation set on its target. -/
theorem transitions_exec :
    after.transitions = (operation.target.transitions w.backend after.backend).map
      (fun entry => (label, entry)) ++ w.transitions := by
  by_cases store : operation.aspect = .store
  · cases operation with
    | memory call =>
      obtain ⟨store, _, _, rfl⟩ := exec_memory executed
      rfl
    | sql statement =>
      obtain ⟨db, fault, _, _, rfl⟩ := exec_sql executed
      rfl
    | _ => cases store
  · rw [(exec_touched executed).transitions store]
    cases operation <;> first | rfl | exact absurd rfl store

theorem exec_transitions :
    (owner, transition) ∈ after.transitions ↔ (owner, transition) ∈ w.transitions ∨
        (owner = label ∧ transition ∈ operation.target.transitions w.backend after.backend) := by
  rw [transitions_exec executed, List.mem_append, List.mem_map, or_comm]
  refine or_congr_right ⟨?_, ?_⟩
  · rintro ⟨entry, listed, same⟩
    cases same
    exact ⟨rfl, listed⟩
  · rintro ⟨rfl, listed⟩
    exact ⟨transition, listed, rfl⟩

/-- The history of a chain gains exactly the flags that were set. -/
theorem exec_chainTransitions {id : String} (about : transition.chain? = some id) (owner : Nat) :
    (owner, transition) ∈ after.transitions ↔ (owner, transition) ∈ w.transitions ∨
        (owner = label ∧ transition ∈ chainTransitions id
          (w.backend.chain id) (after.backend.chain id)) := by
  have quiet (missed : operation.target ≠ .chain id) :
      chainTransitions id (w.backend.chain id) (after.backend.chain id) = [] := by
    rcases exec_chain executed id with same | ⟨hit, _⟩ | ⟨_, state, stored, running⟩
    · rw [same, chainTransitions_self]
    · exact absurd hit missed
    · simp only [ChainState.terminal, Bool.or_eq_false_iff] at running
      rw [stored]
      cases w.backend.chain id <;> simp [chainTransitions, running]
  rw [exec_transitions executed]
  refine or_congr_right (and_congr_right fun _ => ?_)
  cases target : operation.target with
  | none =>
    rw [quiet (by simp [target])]
    rfl
  | chain chainID =>
    by_cases same : chainID = id
    · subst same
      rfl
    · rw [quiet (by simp [target, same])]
      refine ⟨fun listed => ?_, fun impossible => by cases impossible⟩
      rw [chain?_of_mem_chainTransitions listed] at about
      exact absurd (Option.some.inj about) same
  | batch batchID member =>
    rw [quiet (by simp [target])]
    refine ⟨fun listed => ?_, fun impossible => by cases impossible⟩
    rw [chain?_of_mem_batchTransitions listed] at about
    cases about

end World

end JobQueue.Workflow
