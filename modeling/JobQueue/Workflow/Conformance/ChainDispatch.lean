import JobQueue.Workflow.Conformance.SqlChainDelivery

/-!
# Dispatching a chain

The dispatch stores the chain under an identifier it generated, enqueues the
first node once, and after a rejection fails the chain before it reports the
failure. What it returns names the chain it stored.
-/

namespace JobQueue.Workflow

open Interleaving

/-- The dispatch of a chain may return here. -/
def ChainAnswer (kind : StoreKind) (answer : String × Option GoError) (after : Phase) : Prop :=
  ChainStop kind answer.1 after

theorem quiet_chainNodes : Quiet (chainNodes queue chainID jobs) := by
  induction jobs with
  | nil => exact trivial
  | cons job jobs ih =>
    unfold chainNodes
    split
    · exact trivial
    refine (quiet_newID "n").bind fun _ => ?_
    refine ih.bind ?_
    rintro (_ | _) <;> exact trivial

section ChainDispatch

variable {r : Runtime} {kind : StoreKind} (builtin : r.store = kind.methods) {record : ChainRecord}

/-- Phases in which the dispatch may return after a rejection. Only the SQL
store can leave the chain alone. -/
def AfterRejection (kind : StoreKind) (record : ChainRecord)
    (first : ChainNode) (error : GoError) (after : Phase) : Prop :=
  after = .chainDispatched record ∨ (kind = .sql ∧ after = .chainRejected record first error) ∨
    after = .chainRefused record

theorem AfterRejection.stop (ended : AfterRejection kind record first error after) :
    ChainStop kind record.chainID after := by
  rcases ended with rfl | ⟨sql, rfl⟩ | rfl
  · exact rfl
  · exact ⟨sql, rfl⟩
  · exact rfl

/-- What failing the chain after a rejection leaves behind. -/
def RejectionEnds (kind : StoreKind) (record : ChainRecord) (first : ChainNode) (error : GoError) :
    Except GoError (ChainState × Bool) -> Phase -> Prop
  | .error _, after => AfterRejection kind record first error after
  | .ok (_, owned), after =>
    if owned then after = .chainRefused record
    else AfterRejection kind record first error after

theorem meets_memoryFailChainNode :
    Meets EngineMoves
      (failChainNode { store := StoreKind.memory.methods } record.chainID first.nodeID (some error))
      (.chainRejected record first error)
      (RejectionEnds .memory record first error) := by
  intro answer
  match answer with
  | .error refusal => exact ⟨_, .chainDispatch (.failRefused record first error refusal), .inl rfl⟩
  | .ok failed =>
    cases owned : failed.owned with
    | true =>
      refine ⟨_, .chainDispatch (.fail record first error failed owned), ?_⟩
      show if failed.owned then _ else _
      rw [if_pos owned]
    | false =>
      refine ⟨_, .chainDispatch (.failLost record first error failed owned), ?_⟩
      show if failed.owned then _ else _
      rw [if_neg (by simp [owned])]
      exact .inl rfl

/-- A failure is owned or lost only in a failed chain, and claimed only in a
running one. -/
theorem failed_eq_of_disposition
    (disposed : chainNodeFailureDisposition state nodeID = .ok disposition) :
    (disposition.owned = true -> state.failed = true) ∧
    (disposition.claimable = true -> state.failed = false) := by
  unfold chainNodeFailureDisposition at disposed
  split at disposed
  · cases disposed
  split at disposed
  · cases disposed
    simp
  split at disposed
  · cases disposed
  cases failed : state.failed with
  | true =>
    simp only [failed, if_true] at disposed
    split at disposed
    · cases disposed
    · cases disposed
      simp
  | false =>
    simp only [failed, Bool.false_eq_true, if_false] at disposed
    split at disposed
    · cases disposed
      simp
    split at disposed
    · cases disposed
    · cases disposed
      simp

/-- Reading the chain after a rejection, noting a failed one. -/
theorem meets_getChain_failed :
    Meets EngineMoves (SqlStore.getChain record.chainID)
      (.chainRejected record first error) fun result after =>
        match result with
        | .error _ => after = .chainRejected record first error
        | .ok state =>
          after = if state.failed then .chainRefused record
            else .chainRejected record first error := by
  intro answer
  match answer with
  | .error error => exact ⟨_, .quiet _ _ _ rfl, rfl⟩
  | .ok none => exact ⟨_, .quiet _ _ _ rfl, rfl⟩
  | .ok (some state) =>
    cases failed : state.failed with
    | true =>
      refine ⟨_, .chainDispatch (.sawFailed record first error state failed), ?_⟩
      show Phase.chainRefused record = _
      rw [failed, if_pos rfl]
    | false =>
      refine ⟨_, .quiet _ _ _ rfl, ?_⟩
      show Phase.chainRejected record first error = _
      simp [failed]

/-- The projection of `FailChainNode` from a failure result. -/
def FailureEnds (record : ChainRecord) (first : ChainNode) (error : GoError)
    (result : Except GoError ChainFailureResult) (after : Phase) : Prop :=
  RejectionEnds .sql record first error
    (result.map fun failed => (failed.state, failed.owned)) after

theorem afterRejection_read {state : ChainState}
    (reached : phase = if state.failed then .chainRefused record
      else .chainRejected record first error) : AfterRejection .sql record first error phase := by
  rw [reached]
  split
  · exact .inr (.inr rfl)
  · exact .inr (.inl ⟨rfl, rfl⟩)

theorem meets_dispatchSettledFailure
    (disposed : chainNodeFailureDisposition state first.nodeID = .ok disposition)
    (reached : phase = if state.failed then .chainRefused record
      else .chainRejected record first error) :
    Meets EngineMoves (SqlStore.settledFailure record.chainID first.nodeID {} state
        disposition.owned) phase (FailureEnds record first error) := by
  have ended := afterRejection_read reached
  unfold SqlStore.settledFailure
  split
  · exact ended
  refine (quiet_sqlChainTransitionReceipt _ _).bind_meets ?_
  rintro (_ | receipt)
  · exact ended
  show if disposition.owned then _ else _
  split
  · rename_i owned
    rw [reached, if_pos ((failed_eq_of_disposition disposed).1 owned)]
  · exact ended

theorem meets_dispatchLostFailure :
    Meets EngineMoves (SqlStore.lostFailure record.chainID first.nodeID {})
      (.chainRejected record first error)
      (FailureEnds record first error) := by
  unfold SqlStore.lostFailure
  refine Meets.bind meets_getChain_failed ?_
  rintro (refusal | state) phase reached
  · exact .inr (.inl ⟨rfl, reached⟩)
  dsimp only at reached ⊢
  have ended := afterRejection_read reached
  split
  · exact ended
  rename_i disposition disposed
  split
  · exact meets_dispatchSettledFailure disposed reached
  split <;> exact ended

theorem meets_dispatchFailChainOutcome :
    Meets EngineMoves (SqlStore.failChainOutcome record.chainID first.nodeID (some error) {})
      (.chainRejected record first error)
      (FailureEnds record first error) := by
  unfold SqlStore.failChainOutcome
  refine Meets.bind meets_getChain_failed ?_
  rintro (refusal | state) phase reached
  · exact .inr (.inl ⟨rfl, reached⟩)
  dsimp only at reached ⊢
  have ended := afterRejection_read reached
  split
  · exact ended
  rename_i disposition disposed
  split
  · exact meets_dispatchSettledFailure disposed reached
  rename_i claimable
  split
  · exact ended
  have running := (failed_eq_of_disposition disposed).2 (by simpa using claimable)
  rw [running, if_neg (by simp)] at reached
  subst reached
  intro answer
  match answer with
  | .failed refusal =>
    exact ⟨_, .chainDispatch (.failSqlOther record first error state _), .inr (.inl ⟨rfl, rfl⟩)⟩
  | .uncertain refusal =>
    exact ⟨_, .chainDispatch (.failSqlOther record first error state _), .inr (.inl ⟨rfl, rfl⟩)⟩
  | .finished none =>
    exact ⟨_, .chainDispatch (.failSqlOther record first error state _), meets_dispatchLostFailure⟩
  | .finished (some (failed, receipt)) =>
    exact ⟨_, .chainDispatch (.failSql record first error state failed receipt), rfl⟩

include builtin

theorem meets_failChainNode :
    Meets EngineMoves (failChainNode r record.chainID first.nodeID (some error))
      (.chainRejected record first error)
      (RejectionEnds kind record first error) := by
  unfold failChainNode
  rw [builtin]
  cases kind with
  | memory => exact meets_memoryFailChainNode
  | sql =>
    refine Meets.bind meets_dispatchFailChainOutcome ?_
    intro result after ended
    exact ended

theorem meets_rejectInitialNode :
    Meets EngineMoves (rejectInitialNode r context dispatchID record.chainID first error)
      (.chainRejected record first error) (ChainAnswer kind) := by
  unfold rejectInitialNode
  refine Meets.bind (meets_failChainNode builtin) ?_
  rintro (refusal | ⟨state, owned⟩) after ended
  · exact ended.stop
  cases owned with
  | false => exact AfterRejection.stop ended
  | true =>
    simp only [RejectionEnds, if_true] at ended
    subst ended
    simp only [not_true_eq_false, if_false]
    refine meets_bind_of_eq (meets_emitFresh context _
      (some error) fun event deferred kind about _ =>
        EngineMoves.chainDispatch (.report record event deferred kind about))
      fun _ => ?_
    rw [builtin]
    refine (quiet_getChain kind).bind_meets ?_
    rintro (_ | state)
    · exact rfl
    refine (quiet_invokeCallbackInline builtin).bind_meets fun _ => ?_
    refine (quiet_invokeCallbackInline builtin).bind_meets fun _ => ?_
    exact (Quiet.ask rfl).bind_meets fun _ => rfl

theorem meets_dispatchInitialNode
    (context : DeliveryContext) (head : record.nodes[0]? = some first) :
    Meets EngineMoves (dispatchInitialNode r context record.dispatchID record.chainID first)
      (.chainStored record) (ChainAnswer kind) := by
  unfold dispatchInitialNode
  refine (quiet_emitFresh rfl).bind_meets fun _ => ?_
  intro id
  refine ⟨_, .chainDispatch (.mintJob record first id head), ?_⟩
  intro answer
  cases answer with
  | none =>
    refine ⟨_, .chainDispatch (.post record first id none rfl), ?_⟩
    exact (Quiet.ask rfl).bind_meets fun _ => rfl
  | some error =>
    cases execution : acceptedExecutionError (some error) with
    | some executionError =>
      refine ⟨_, .chainDispatch (.post record first id (some error)
        (by simp [accepted, execution])), ?_⟩
      dsimp only [Prog.bind]
      rw [execution]
      exact rfl
    | none =>
      refine ⟨_, .chainDispatch (.postRejected record first id error
        (by simp [accepted, execution])), ?_⟩
      dsimp only [Prog.bind]
      rw [execution]
      exact meets_rejectInitialNode builtin

theorem meets_createChain :
    Meets EngineMoves (r.store.createChain record) (.chainMinted record.chainID) fun result after =>
        match result with
        | some _ => after = .idle ∨ after = .chainMinted record.chainID
        | none => after = .chainStored record := by
  rw [builtin]
  cases kind with
  | memory =>
    intro answer
    match answer with
    | some error => exact ⟨_, .chainDispatch (.createRefused record error), .inl rfl⟩
    | none => exact ⟨_, .chainDispatch (.create record), rfl⟩
  | sql =>
    show Meets EngineMoves (match validateChainRecord record with
      | some _ => _
      | none => _) _ _
    split
    · exact .inr rfl
    · intro answer
      match answer with
      | .error error => exact ⟨_, .chainDispatch (.insertRefused record error), .inl rfl⟩
      | .ok () => exact ⟨_, .chainDispatch (.insert record), rfl⟩

/-- Dispatching a chain keeps to the protocol. -/
theorem meets_chainBuilderDispatch (b : ChainBuilder) (context : DeliveryContext) :
    Meets EngineMoves (b.dispatch r context) .chainDispatch (ChainAnswer kind) := by
  unfold ChainBuilder.dispatch
  split
  · exact rfl
  intro chainID
  refine ⟨_, .chainDispatch (.mint chainID), ?_⟩
  refine (quiet_newID "dsp").bind_meets fun dispatchID => ?_
  refine quiet_chainNodes.bind_meets ?_
  rintro (error | nodes)
  · exact rfl
  refine quiet_readClock.bind_meets fun createdAt => ?_
  refine Meets.bind (meets_createChain builtin) ?_
  rintro (_ | error) after created
  · dsimp only at created
    subst created
    cases nodes with
    | nil =>
      dsimp only
      split
      · exact (Quiet.ask rfl).bind_meets fun _ => ⟨rfl, rfl⟩
      · exact ⟨rfl, rfl⟩
    | cons first rest =>
      have proceed := @meets_dispatchInitialNode r kind builtin
        { chainID := chainID, dispatchID := dispatchID, queue := b.queue,
          nodes := first :: rest, createdAt := createdAt } first context rfl
      dsimp only
      split
      · exact (Quiet.ask rfl).bind_meets fun _ => proceed
      · exact proceed
  · rcases created with rfl | rfl <;> exact rfl

end ChainDispatch

end JobQueue.Workflow
