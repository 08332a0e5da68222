import JobQueue.Workflow.Conformance.BatchDelivery
import JobQueue.Workflow.Conformance.ChainDispatch

/-!
# The programs of the machine keep to the protocol

After the dispatch of a batch every program the machine can start is covered.
Each of them is started in the phase that its kind names, and what it returns
is allowed in the phase it ends in.
-/

namespace JobQueue.Workflow

open Interleaving

/-! ## Dispatching a batch -/

theorem quiet_batchJobs : Quiet (batchJobs queue jobs) := by
  induction jobs with
  | nil => exact trivial
  | cons job jobs ih =>
    unfold batchJobs
    split
    · exact trivial
    refine (quiet_newID "job").bind fun _ => ?_
    refine ih.bind ?_
    rintro (_ | _) <;> exact trivial

section BatchDispatch

variable {r : Runtime} {kind : StoreKind} (builtin : r.store = kind.methods)

include builtin

theorem meets_cancelBatch :
    Meets EngineMoves (r.store.cancelBatch record.batchID)
      (.batchRejected record) fun result after =>
        match result with
        | some _ => after = .idle
        | none => after = .batchCancelled record 0 := by
  rw [builtin]
  cases kind with
  | memory =>
    intro answer
    match answer with
    | some error => exact ⟨_, .batchDispatch (.cancelRefused record error), rfl⟩
    | none => exact ⟨_, .batchDispatch (.cancel record), rfl⟩
  | sql =>
    intro answer
    match answer with
    | .error error => exact ⟨_, .batchDispatch (.cancelSqlRefused record error), rfl⟩
    | .ok () => exact ⟨_, .batchDispatch (.cancelSql record), rfl⟩

theorem meets_reportRejectedBatch :
    Meets EngineMoves
      (reportRejectedBatch r context record.dispatchID record.batchID member
        error) (.batchCancelled record 0) fun _ => BatchStop := by
  unfold reportRejectedBatch
  have failed := meets_emitFresh context (batchJobEnvelope record.dispatchID record.batchID member)
    (some error) fun event deferred kind _ about => EngineMoves.batchDispatch
    (.reportFailed record event deferred kind about)
  have cancelled := meets_emitFresh context
    (batchJobEnvelope record.dispatchID record.batchID member) none fun event deferred kind _
    about => EngineMoves.batchDispatch (.reportCancelled record event deferred kind about)
  refine meets_bind_of_eq failed fun _ => ?_
  refine meets_bind_of_eq cancelled fun _ => ?_
  rw [builtin]
  refine (quiet_getBatch kind).bind_meets ?_
  rintro (_ | state)
  · exact trivial
  refine Quiet.bind_meets (Quiet.ask rfl) fun _ => ?_
  refine (quiet_invokeCallbackInline builtin).bind_meets fun _ => ?_
  refine (quiet_invokeCallbackInline builtin).bind_meets fun _ => ?_
  exact (Quiet.ask rfl).bind_meets fun _ => trivial

theorem meets_rejectMember :
    Meets EngineMoves (rejectMember r context record.dispatchID record.batchID member error)
      (.batchRejected record) fun _ => BatchStop := by
  unfold rejectMember
  have cancelled := @meets_cancelBatch r kind builtin record
  have read : Quiet (r.store.getBatch record.batchID) := by
    rw [builtin]
    exact quiet_getBatch kind
  refine read.bind_meets fun state => ?_
  have proceed : Meets EngineMoves (do
        match ← r.store.cancelBatch record.batchID with
        | some cancelErr =>
          return (record.batchID, some (uncommittedMutationError
            "cancel batch after initial dispatch rejection"
            (.join error cancelErr)))
        | none => reportRejectedBatch r context record.dispatchID record.batchID member error)
      (.batchRejected record) fun _ => BatchStop := by
    refine Meets.bind cancelled ?_
    rintro (_ | cancelErr) after ended
    · cases ended
      exact meets_reportRejectedBatch builtin
    · cases ended
      exact trivial
  rcases state with error | state
  · exact proceed
  dsimp only
  cases state.completed || decide (0 < state.processed) || decide (0 < state.failed)
  · exact proceed
  · exact trivial

theorem meets_dispatchMembers (context : DeliveryContext) (allowFailed : Bool)
    {members : List BatchJob} (listed : ∀ job ∈ members, job ∈ record.jobs)
    (synchronousErr : Option GoError) :
    Meets EngineMoves
      (dispatchMembers r context allowFailed record.dispatchID record.batchID
        members synchronousErr) (.batchStored record) fun _ => BatchStop := by
  induction members generalizing synchronousErr with
  | nil => exact trivial
  | cons member members ih =>
    have rest := fun synchronousErr => ih
      (fun job found => listed job (List.mem_cons_of_mem _ found)) synchronousErr
    have head : member ∈ record.jobs := listed member List.mem_cons_self
    unfold dispatchMembers
    intro answer
    cases answer with
    | none => exact ⟨_, .batchDispatch (.post record member none head rfl), rest _⟩
    | some error =>
      cases execution : acceptedExecutionError (some error) with
      | some executionError =>
        refine ⟨_, .batchDispatch (.post record member (some error) head
          (by simp [accepted, execution])), ?_⟩
        show Meets EngineMoves (match acceptedExecutionError (some error) with
          | some _ => _
          | none => _) _ _
        rw [execution]
        dsimp only
        split
        · exact rest _
        · exact trivial
      | none =>
        refine ⟨_, .batchDispatch (.postRejected record member error head
          (by simp [accepted, execution])), ?_⟩
        show Meets EngineMoves (match acceptedExecutionError (some error) with
          | some _ => _
          | none => _) _ _
        rw [execution]
        exact meets_rejectMember builtin

theorem meets_createBatch :
    Meets EngineMoves (r.store.createBatch record) (.batchMinted record.batchID) fun result after =>
        match result with
        | some _ => after = .idle ∨ after = .batchMinted record.batchID
        | none => after = .batchStored record := by
  rw [builtin]
  cases kind with
  | memory =>
    intro answer
    match answer with
    | some error => exact ⟨_, .batchDispatch (.createRefused record error), .inl rfl⟩
    | none => exact ⟨_, .batchDispatch (.create record), rfl⟩
  | sql =>
    show Meets EngineMoves (SqlStore.createBatch record) _ _
    unfold SqlStore.createBatch
    split
    · exact .inr rfl
    · intro answer
      match answer with
      | .failed error => exact ⟨_, .batchDispatch (.insertOther record _), .inl rfl⟩
      | .uncertain error => exact ⟨_, .batchDispatch (.insertOther record _), .inl rfl⟩
      | .finished () => exact ⟨_, .batchDispatch (.insert record), rfl⟩

/-- Dispatching a batch keeps to the protocol. -/
theorem meets_batchBuilderDispatch (b : BatchBuilder) (context : DeliveryContext) :
    Meets EngineMoves (b.dispatch r context) .batchDispatch fun _ => BatchStop := by
  unfold BatchBuilder.dispatch
  split
  · exact trivial
  intro batchID
  refine ⟨_, .batchDispatch (.mint batchID), ?_⟩
  refine (quiet_newID "dsp").bind_meets fun dispatchID => ?_
  refine quiet_batchJobs.bind_meets ?_
  rintro (error | members)
  · exact trivial
  refine quiet_readClock.bind_meets fun createdAt => ?_
  refine Meets.bind (meets_createBatch builtin) ?_
  rintro (_ | error) after created
  swap
  · rcases created with rfl | rfl <;> exact trivial
  cases created
  cases members with
  | nil =>
    dsimp only
    split
    · exact (Quiet.ask rfl).bind_meets fun _ => trivial
    · exact trivial
  | cons first rest =>
    have proceed := @meets_dispatchMembers r kind builtin
      { batchID := batchID, dispatchID := dispatchID, name := b.name,
        queue := b.queue, allowFailed := b.allowFailed,
        jobs := first :: rest, createdAt := createdAt }
      context b.allowFailed (first :: rest) (fun _ listed => listed) none
    dsimp only
    split
    · exact (Quiet.ask rfl).bind_meets fun _ =>
        (quiet_emitFresh rfl).bind_meets fun _ => proceed
    · exact (quiet_emitFresh rfl).bind_meets fun _ => proceed

end BatchDispatch

/-! ## The programs of the machine -/

namespace Broker

variable (kind : StoreKind) (callbacksDisabled : Bool)

theorem meets_handleDelivery :
    Meets EngineMoves (handleDelivery (runtime kind callbacksDisabled) d.context
        d.message.kind d.message.env) (deliveryPhase kind d) DeliveryStop := by
  unfold handleDelivery deliveryPhase
  cases d.message.kind with
  | direct =>
    refine Meets.bind (@meets_executeStoredJobAttempt d _ d.carries_env
      .direct (fun _ => .direct) (.quiet _ _ _ rfl)
      fun error => .direct _ error) ?_
    rintro outcome after ⟨rfl, _, _⟩
    exact (quiet_emitStoredJobOutcome _).bind_meets fun _ => trivial
  | chainNode =>
    cases kind with
    | memory => exact meets_handleInternalChainNode rfl
    | sql => exact meets_sqlHandleInternalChainNode rfl
  | batchJob => exact @meets_handleInternalBatchJob d _ kind rfl
  | callback =>
    refine Meets.weaken ((@quiet_handleCallbackEnvelope _ kind rfl
      d.context d.message.env).meets) ?_
    rintro result after rfl
    exact trivial

/-- Every program of the machine keeps to the protocol. -/
theorem governs : (engineProtocol kind).Governs (machine kind callbacksDisabled) := by
  intro label before world move program moved
  cases move with
  | dispatchChain builder context =>
    cases moved
    exact ⟨_, rfl, Meets.bind
      (@meets_chainBuilderDispatch _ kind rfl builder context) fun _ _ stops => stops⟩
  | dispatchBatch builder context =>
    cases moved
    exact ⟨_, rfl, Meets.bind
      (@meets_batchBuilderDispatch _ kind rfl builder context) fun _ _ stops => stops⟩
  | deliver index context =>
    obtain ⟨⟨after, d⟩, delivered, same⟩ := Option.map_eq_some_iff.mp moved
    cases same
    unfold deliver at delivered
    split at delivered
    · cases delivered
    split at delivered
    · cases delivered
    cases delivered
    exact ⟨_, ⟨_, by simp [KeyedList.find], rfl⟩,
      Meets.bind (meets_handleDelivery kind callbacksDisabled) fun _ _ stops => stops⟩
  | duplicate index =>
    obtain ⟨message, _, impossible⟩ := Option.map_eq_some_iff.mp moved
    cases impossible
  | prune cutoff => cases moved
  | tick duration => cases moved

end Broker

end JobQueue.Workflow
