import JobQueue.Workflow.Conformance.ChainDelivery

/-!
# Delivering a batch member

The delivery of a member settles it once, and what it reports afterwards is
decided by the settlement it was answered. Both stores are followed together:
they differ only in how a settlement is asked for.
-/

namespace JobQueue.Workflow

open Interleaving

section BatchDelivery

variable {d : Delivery}

/-! ## Settlements -/

/-- The phase after a settlement. A recovered delivery that did not claim the
settlement turns to recovery instead of reporting. -/
def settledPhase (d : Delivery) (outcome : BatchJobOutcome)
    (settlement : BatchSettlementResult) : Phase :=
  if d.recovered && !(settlement.owned && settlement.claimedNow) then
    .member d false
  else .settled d outcome settlement 0

/-- What asking for a settlement leaves behind. -/
def SettlementEnds (d : Delivery) (error : Option GoError) (outcome : BatchJobOutcome) :
    Except GoError BatchSettlementResult -> Phase -> Prop
  | .error _, after => after = .memberRan d error ∨ ∃ owns, after = .memberUnsure d outcome owns
  | .ok settlement, after => after = settledPhase d outcome settlement

theorem settledPhase_of_claimed
    (owned : settlement.owned = true) (claimed : settlement.claimedNow = true) :
    settledPhase d outcome settlement = .settled d outcome settlement 0 := by
  simp [settledPhase, owned, claimed]

/-- Every phase after a settlement may end the delivery. -/
theorem settledPhase_stop : DeliveryStop result (settledPhase d outcome settlement) := by
  unfold settledPhase
  split
  · rename_i lost
    rw [Bool.and_eq_true] at lost
    exact .inl lost.1
  · exact trivial

theorem meets_memorySettleBatchJob (decided : settlementOf d error = some outcome) :
    Meets EngineMoves
      (ask (.memory (.settleBatchOutcome d.env.batchID d.env.jobID outcome
        d.claim))) (.memberRan d error) (SettlementEnds d error outcome) := by
  intro answer
  match answer with
  | .error refusal => exact ⟨_, .member (.settleRefused d error outcome refusal decided), .inl rfl⟩
  | .ok settlement =>
    refine ⟨settledPhase d outcome settlement, ?_, rfl⟩
    unfold settledPhase
    split
    · rename_i lost
      rw [Bool.and_eq_true] at lost
      exact .member (.settleRecovered d error outcome settlement decided lost.1)
    · exact .member (.settle d error outcome settlement decided)

/-! ## Settlements whose commit was not answered -/

/-- What reading a receipt after an unanswered commit leaves behind. -/
def UnsureSettlement (d : Delivery) (outcome : BatchJobOutcome) (owns : Bool)
    (result : Except GoError (Option TransitionReceipt)) (after : Phase) :
    Prop :=
  ∃ ownsNow, after = .memberUnsure d outcome ownsNow ∧ (owns = true -> ownsNow = true) ∧ ∀ receipt,
    result = .ok (some receipt) -> receipt.owner = d.claim -> receipt.aggregateCancelled = true ->
    ownsNow = true

theorem UnsureSettlement.same (absent : ∀ receipt, result ≠ .ok (some receipt)) :
    UnsureSettlement d outcome owns result (.memberUnsure d outcome owns) :=
  ⟨owns, rfl, id, fun receipt found => absurd found (absent receipt)⟩

theorem meets_getTransitionReceipt_member (valid : d.claim.valid = true) :
    Meets EngineMoves (getTransitionReceipt SqlStore.queryer .batch d.env.batchID memberID)
      (.memberUnsure d outcome owns) (UnsureSettlement d outcome owns) := by
  rintro (error | _ | receipt)
  · exact ⟨_, .quiet _ _ _ rfl, UnsureSettlement.same (by simp)⟩
  · exact ⟨_, .quiet _ _ _ rfl, UnsureSettlement.same (by simp)⟩
  · by_cases cancels : receipt.owner = d.claim ∧ receipt.aggregateCancelled = true
    · refine ⟨_, .member (.sawOwnership d outcome owns memberID receipt
        cancels.1 valid cancels.2), ?_⟩
      dsimp only [Prog.bind]
      split <;> exact ⟨true, rfl, fun _ => rfl, fun _ _ _ _ => rfl⟩
    · refine ⟨_, .quiet _ _ _ rfl, ?_⟩
      dsimp only [Prog.bind]
      split
      · exact UnsureSettlement.same (by simp)
      · refine ⟨owns, rfl, id, ?_⟩
        rintro found same owner cancelled
        cases same
        exact absurd ⟨owner, cancelled⟩ cancels

theorem meets_getBatchTransitionReceipt_member (valid : d.claim.valid = true) :
    Meets EngineMoves (getBatchTransitionReceipt SqlStore.queryer d.env.batchID jobID)
      (.memberUnsure d outcome owns) (UnsureSettlement d outcome owns) := by
  unfold getBatchTransitionReceipt
  refine Meets.bind (meets_getTransitionReceipt_member valid) ?_
  rintro (error | member) phase readMember
  · exact readMember
  obtain ⟨ownsMember, rfl, keptMember, seenMember⟩ := readMember
  refine Meets.bind (meets_getTransitionReceipt_member valid) ?_
  rintro (error | _ | aggregate) phase readAggregate
  · obtain ⟨ownsNow, rfl, kept, _⟩ := readAggregate
    exact ⟨ownsNow, rfl, fun earlier => kept (keptMember earlier),
      fun _ impossible => by cases impossible⟩
  · obtain ⟨ownsNow, rfl, kept, _⟩ := readAggregate
    refine ⟨ownsNow, rfl, fun earlier => kept (keptMember earlier), ?_⟩
    intro receipt found owner cancelled
    exact kept (seenMember receipt found owner cancelled)
  obtain ⟨ownsNow, rfl, kept, seenAggregate⟩ := readAggregate
  have refused : ∀ error : GoError, UnsureSettlement d outcome owns (.error error)
        (.memberUnsure d outcome ownsNow) := fun error =>
    ⟨ownsNow, rfl, fun earlier => kept (keptMember earlier),
      fun _ impossible => by cases impossible⟩
  dsimp only
  split
  · exact refused _
  split
  · exact refused _
  refine Quiet.bind_meets (SqlStore.uses_validateBatchAggregateReceiptOwner rfl) ?_
  rintro (_ | error)
  swap
  · exact refused _
  cases member with
  | none =>
    exact ⟨ownsNow, rfl, fun earlier => kept (keptMember earlier),
      fun _ impossible => by cases impossible⟩
  | some receipt =>
    refine ⟨ownsNow, rfl, fun earlier => kept (keptMember earlier), ?_⟩
    intro merged found owner cancelled
    -- Only the aggregate row of the same claim lends its ownership.
    unfold mergeAggregateReceipt at found
    split at found
    · cases found
    split at found
    · rename_i sameOwner
      cases found
      exact seenAggregate aggregate rfl (sameOwner.trans owner) cancelled
    · cases found
      exact kept (seenMember receipt rfl owner cancelled)

theorem meets_batchTransitionReceipt_member (valid : d.claim.valid = true) :
    Meets EngineMoves (SqlStore.batchTransitionReceipt d.env.batchID jobID)
      (.memberUnsure d outcome owns) (UnsureSettlement d outcome owns) := by
  refine (quiet_sqlGetBatch _).bind_meets ?_
  rintro (error | state)
  · exact UnsureSettlement.same (by simp)
  refine Meets.bind (meets_getBatchTransitionReceipt_member valid) ?_
  rintro (error | _ | receipt) after read
  · exact read
  · exact read
  · dsimp only
    split
    · obtain ⟨ownsNow, same, kept, _⟩ := read
      exact ⟨ownsNow, same, kept, by simp⟩
    · exact read

theorem meets_readCommittedBatchSettlement :
    Meets EngineMoves
      (SqlStore.readCommittedBatchSettlement d.env.batchID d.env.jobID outcome
        d.claim commitErr) (.memberUnsure d outcome false)
      (SettlementEnds d error outcome) := by
  unfold SqlStore.readCommittedBatchSettlement
  split
  · exact .inr ⟨_, rfl⟩
  rename_i valid
  refine Meets.bind (meets_batchTransitionReceipt_member (not_not.mp valid)) ?_
  rintro (refusal | _ | receipt) after ⟨ownsNow, rfl, _, seen⟩
  · exact .inr ⟨_, rfl⟩
  · exact .inr ⟨_, rfl⟩
  dsimp only
  split
  · exact .inr ⟨_, rfl⟩
  rename_i matching
  simp only [not_or, not_not] at matching
  intro answer
  match answer with
  | .error refusal => exact ⟨_, .quiet _ _ _ rfl, .inr ⟨_, rfl⟩⟩
  | .ok none => exact ⟨_, .quiet _ _ _ rfl, .inr ⟨_, rfl⟩⟩
  | .ok (some state) =>
    refine ⟨_, .member (.confirm d outcome ownsNow state receipt (seen receipt rfl matching.1)), ?_⟩
    exact (settledPhase_of_claimed rfl rfl).symm

theorem meets_markBatchTerminal (decided : settlementOf d error = some outcome) :
    Meets EngineMoves (SqlStore.markBatchTerminal d.env.batchID d.env.jobID outcome d.claim)
      (.memberRan d error) (SettlementEnds d error outcome) := by
  intro answer
  match answer with
  | .failed refusal =>
    exact ⟨_, .member (.settleSqlFailed d error outcome refusal decided), .inl rfl⟩
  | .uncertain refusal =>
    exact ⟨_, .member (.settleSqlUnsure d error outcome refusal decided),
      meets_readCommittedBatchSettlement⟩
  | .finished row =>
    refine ⟨settledPhase d outcome (settlementOfRow row), ?_, rfl⟩
    unfold settledPhase
    split
    · rename_i lost
      rw [Bool.and_eq_true] at lost
      exact .member (.settleSqlRecovered d error outcome row decided lost.1)
    · exact .member (.settleSql d error outcome row decided)

/-- An attempt is settled as a success or as a failure. -/
theorem settlementOf_supported (decided : settlementOf d error = some outcome) :
    outcome = .succeeded ∨ outcome = .failed := by
  unfold settlementOf at decided
  split at decided <;> cases decided
  · exact .inl rfl
  · exact .inr rfl

theorem quiet_emitCommittedBatchSuccessFacts (outcome : StoredJobOutcome) :
    Quiet (emitCommittedBatchSuccessFacts context env outcome) :=
  (quiet_emitStoredJobOutcome _).bind fun _ =>
    quiet_emitFact _ rfl

theorem quiet_invokeBatchProgress : Quiet (invokeBatchProgress state progress) :=
  (aside_invokeBatchProgress state).quiet

theorem quiet_dispatchBatchTerminalCallbacks : Quiet (dispatchBatchTerminalCallbacks env state) :=
  (aside_dispatchBatchTerminalCallbacks state).quiet

section Builtin

variable {r : Runtime} {kind : StoreKind} (builtin : r.store = kind.methods)
  (carries : d.Carries env)

include builtin

theorem meets_settleBatchJob (decided : settlementOf d error = some outcome) :
    Meets EngineMoves (settleBatchJob r d.env.batchID d.env.jobID outcome d.claim)
      (.memberRan d error) (SettlementEnds d error outcome) := by
  unfold settleBatchJob
  rw [builtin]
  cases kind with
  | memory => exact meets_memorySettleBatchJob decided
  | sql =>
    rcases settlementOf_supported decided with rfl | rfl <;> exact meets_markBatchTerminal decided

/-! ## Recovery -/

theorem quiet_batchTransitionReceipt :
    ∃ store, r.store.transitionReceiptStore = some store ∧
      ∀ batchID jobID, Quiet (store.batchTransitionReceipt batchID jobID) := by
  rw [builtin]
  cases kind
  · exact ⟨_, rfl, fun _ _ => Quiet.ask rfl⟩
  · exact ⟨_, rfl, quiet_sqlBatchTransitionReceipt⟩

/-- Reading the batch, noting one that ended without being cancelled. -/
theorem meets_getBatch_member :
    Meets EngineMoves (r.store.getBatch d.env.batchID) (.member d clean)
      fun result after => ∃ cleanNow, after = .member d cleanNow ∧
        ∀ state, result = .ok state -> state.succeeded = true -> cleanNow = true := by
  rw [builtin]
  cases kind with
  | memory =>
    intro answer
    match answer with
    | .error error => exact ⟨_, .quiet _ _ _ rfl, _, rfl, fun _ impossible => by cases impossible⟩
    | .ok state =>
      cases succeeded : state.succeeded with
      | true => exact ⟨_, .member (.saw d clean state succeeded), _, rfl, fun _ _ _ => rfl⟩
      | false =>
        refine ⟨_, .quiet _ _ _ rfl, _, rfl, ?_⟩
        rintro _ ⟨⟩ impossible
        simp [succeeded] at impossible
  | sql =>
    intro answer
    match answer with
    | .error error => exact ⟨_, .quiet _ _ _ rfl, _, rfl, fun _ impossible => by cases impossible⟩
    | .ok none => exact ⟨_, .quiet _ _ _ rfl, _, rfl, fun _ impossible => by cases impossible⟩
    | .ok (some state) =>
      cases succeeded : state.succeeded with
      | true => exact ⟨_, .member (.sawSql d clean state succeeded), _, rfl, fun _ _ _ => rfl⟩
      | false =>
        refine ⟨_, .quiet _ _ _ rfl, _, rfl, ?_⟩
        rintro _ ⟨⟩ impossible
        simp [succeeded] at impossible

include carries

omit builtin in
theorem meets_reportRecoveredBatchCompletion (seen : state.succeeded = true -> clean = true)
    (receipt : TransitionReceipt) (exactFactOwner : Bool) :
    Meets EngineMoves (reportRecoveredBatchCompletion d.context env state receipt
        exactFactOwner) (.member d clean)
      fun _ after => after = .member d clean := by
  unfold reportRecoveredBatchCompletion
  split
  · rename_i owns
    simp only [Bool.and_eq_true] at owns
    have succeeded : state.succeeded = true := by simp [BatchState.succeeded, owns.1.2, owns.2]
    rw [seen succeeded]
    exact meets_emitFact d.context _ env none fun event deferred kind _ about => EngineMoves.member
        (.recoverReport d event deferred kind (about.trans carries.batchID))
  · exact rfl

omit builtin in
theorem meets_recoverBatchReceipt (seen : state.succeeded = true -> clean = true)
    (provenance : DeliveryProvenance) (receipt : TransitionReceipt) :
    Meets EngineMoves (recoverBatchReceipt d.context provenance env state receipt)
      (.member d clean) fun _ after => after = .member d clean := by
  have reported := fun exactFactOwner =>
    meets_reportRecoveredBatchCompletion carries seen receipt exactFactOwner
  unfold recoverBatchReceipt
  dsimp only
  split
  · exact rfl
  split
  · exact rfl
  split
  · exact rfl
  split
  · split
    · exact rfl
    refine quiet_readClock.bind_meets fun observed => ?_
    split
    · exact rfl
    refine (quiet_emitCommittedBatchSuccessFacts _).bind_meets fun _ => ?_
    exact meets_bind_of_eq (reported _) fun _ => rfl
  · exact meets_bind_of_eq (reported _) fun _ => rfl
  · exact rfl

theorem meets_recoverCommittedBatchTransition :
    Meets EngineMoves (recoverCommittedBatchTransition r d.context env)
      (.member d clean) fun _ after => ∃ clean, after = .member d clean := by
  obtain ⟨store, available, quietReceipt⟩ := quiet_batchTransitionReceipt builtin
  unfold recoverCommittedBatchTransition
  simp only [available]
  split
  · exact ⟨_, rfl⟩
  rw [carries.batchID]
  refine Meets.bind (meets_getBatch_member builtin) ?_
  rintro (error | state) after ⟨cleanNow, rfl, seen⟩
  · exact ⟨_, rfl⟩
  dsimp only
  split
  · exact ⟨_, rfl⟩
  refine (quietReceipt _ _).bind_meets ?_
  rintro (error | _ | receipt)
  · exact ⟨_, rfl⟩
  · exact ⟨_, rfl⟩
  exact meets_bind_of_eq (meets_recoverBatchReceipt carries (seen state rfl) _ receipt)
    fun _ => ⟨_, rfl⟩

/-! ## Settling the attempt -/

omit builtin in
/-- Reporting the end of a batch by the delivery that claimed it. -/
theorem meets_dispatchBatchTerminal (claimed : settlement.claimedNow = true) :
    Meets EngineMoves (dispatchBatchTerminal d.context env settlement.state)
      (.settled d outcome settlement reported)
      fun _ after => after = .settled d outcome settlement reported := by
  unfold dispatchBatchTerminal
  split
  · rename_i ended
    have succeeded : settlement.state.succeeded = true := by
      simp [BatchState.succeeded, ended.1, ended.2]
    have completed := meets_emitFact d.context (batchFactID .batchCompleted env) env none
      fun event deferred kind _ about => EngineMoves.member
        (.reportCompleted d outcome settlement reported event deferred claimed
          succeeded kind (about.trans carries.batchID))
    refine meets_bind_of_eq completed fun _ => ?_
    exact quiet_dispatchBatchTerminalCallbacks.meets
  · exact quiet_dispatchBatchTerminalCallbacks.meets

omit builtin in
theorem meets_reportBatchFailure (claimed : settlement.claimedNow = true) :
    Meets EngineMoves (reportBatchFailure d.context env attempt settlement.state
        (batchSettlementOwnsTerminal settlement .failed) progress)
      (.settled d .failed settlement 0) DeliveryStop := by
  have ending : ∀ reported, Meets EngineMoves (do
        if settlement.state.failed = 1 then
          let _ ← dispatchCallback env .batchCatch attempt.error
        invokeBatchProgress settlement.state progress
        if batchSettlementOwnsTerminal settlement .failed then
          dispatchBatchTerminal d.context env settlement.state
        return attempt.error)
      (.settled d .failed settlement reported) DeliveryStop := by
    intro reported
    have last : Meets EngineMoves (do
          invokeBatchProgress settlement.state progress
          if batchSettlementOwnsTerminal settlement .failed then
            dispatchBatchTerminal d.context env settlement.state
          return attempt.error)
        (.settled d .failed settlement reported) DeliveryStop := by
      refine quiet_invokeBatchProgress.bind_meets fun _ => ?_
      split
      · exact meets_bind_of_eq (meets_dispatchBatchTerminal carries claimed) fun _ => trivial
      · exact trivial
    by_cases first : settlement.state.failed = 1
    · simp only [if_pos first]
      exact (quiet_dispatchCallback _ _ _).bind_meets fun _ => last
    · simp only [if_neg first]
      exact last
  unfold reportBatchFailure
  refine (quiet_emitStoredJobOutcome _).bind_meets fun _ => ?_
  refine (quiet_emitFact _ rfl).bind_meets fun _ => ?_
  by_cases owns : (batchSettlementOwnsTerminal settlement .failed &&
      settlement.state.cancelled) = true
  · simp only [if_pos owns]
    rw [Bool.and_eq_true] at owns
    have failed := meets_emitFresh d.context env attempt.error
      fun event deferred kind _ about => EngineMoves.member
        (.reportFailed d settlement event deferred claimed owns.1 owns.2 kind
          (about.trans carries.batchID))
    have cancelled := meets_emitFresh d.context env none
      fun event deferred kind _ about => EngineMoves.member
        (.reportCancelled d settlement event deferred claimed owns.1 owns.2
          kind (about.trans carries.batchID))
    refine meets_bind_of_eq failed fun _ => ?_
    exact meets_bind_of_eq cancelled fun _ => ending 2
  · simp only [if_neg owns]
    exact ending 0

omit builtin carries in
theorem quiet_replayBatchFailure :
    Quiet (replayBatchFailure context env attempt state ownsTerminal) := by
  unfold replayBatchFailure
  have ending : Quiet (do
      if ownsTerminal then dispatchBatchTerminalCallbacks env state
      return (none : Option GoError)) := by
    cases ownsTerminal
    · exact trivial
    · exact quiet_dispatchBatchTerminalCallbacks.bind fun _ => trivial
  split
  · exact trivial
  by_cases first : state.failed = 1
  · simp only [if_pos first]
    exact (quiet_dispatchCallback _ _ _).bind fun _ => ending
  · simp only [if_neg first]
    exact ending

omit carries in
/-- Recovery after a settlement that this delivery did not claim. -/
theorem meets_recoverSettlement {attempt : StoredJobOutcome} (executed : attempt.env = d.executed)
    (recovering : d.recovered = true)
    (lost : settlement.owned = false ∨ settlement.claimedNow = false) :
    Meets EngineMoves (do
        let recovered ← recoverCommittedBatchTransition r d.context attempt.env
        return recovered.getD none)
      (settledPhase d outcome settlement) DeliveryStop := by
  have phase : settledPhase d outcome settlement = .member d false := by
    rcases lost with lost | lost <;> simp [settledPhase, recovering, lost]
  rw [phase, executed]
  refine Meets.bind (meets_recoverCommittedBatchTransition builtin d.carries_executed) ?_
  rintro result after ⟨clean, rfl⟩
  exact .inl recovering

omit builtin carries in
/-- A settlement that was refused is an infrastructure error. -/
theorem SettlementEnds.refused (ended : SettlementEnds d error outcome (.error refusal) after) :
    DeliveryStop (some (uncommittedMutationError operation cause)) after := by
  have uncommitted := isUncommittedResult_uncommittedMutationError operation cause
  rcases ended with rfl | ⟨owns, rfl⟩
  · exact .inr uncommitted
  · exact uncommitted

theorem meets_failBatchDelivery (executed : attempt.env = d.executed)
    (decided : settlementOf d attempt.error = some .failed) :
    Meets EngineMoves (failBatchDelivery r d.context env attempt progress)
      (.memberRan d attempt.error) DeliveryStop := by
  unfold failBatchDelivery
  rw [d.claim_eq executed, carries.batchID, carries.jobID]
  refine Meets.bind (meets_settleBatchJob builtin decided) ?_
  rintro (refusal | settlement) after ended
  · exact ended.refused
  cases ended
  refine quiet_markDeliveryTransitionCommitted.bind_meets fun _ => ?_
  split
  · rename_i lost
    split
    · exact settledPhase_stop
    · rename_i provenance recovering
      exact meets_recoverSettlement builtin executed
        (Delivery.recovered_eq_true recovering) (.inl (by simpa using lost))
  rename_i owned
  dsimp only
  split
  · refine Meets.weaken quiet_replayBatchFailure.meets ?_
    rintro result after rfl
    exact settledPhase_stop
  · rename_i claimed
    rw [not_not] at owned claimed
    rw [settledPhase_of_claimed owned claimed]
    exact meets_reportBatchFailure carries claimed

theorem meets_succeedBatchDelivery (executed : attempt.env = d.executed)
    (decided : settlementOf d attempt.error = some .succeeded) :
    Meets EngineMoves (succeedBatchDelivery r d.context env attempt progress)
      (.memberRan d attempt.error) DeliveryStop := by
  unfold succeedBatchDelivery
  rw [d.claim_eq executed, carries.batchID, carries.jobID]
  refine Meets.bind (meets_settleBatchJob builtin decided) ?_
  rintro (refusal | settlement) after ended
  · exact ended.refused
  cases ended
  refine quiet_markDeliveryTransitionCommitted.bind_meets fun _ => ?_
  split
  · exact settledPhase_stop
  rename_i owned
  dsimp only
  split
  · rename_i unclaimed
    split
    · rename_i provenance recovering
      exact meets_recoverSettlement builtin executed (Delivery.recovered_eq_true recovering)
        (.inr (by simpa using unclaimed))
    · split
      · refine quiet_dispatchBatchTerminalCallbacks.bind_meets fun _ => ?_
        exact settledPhase_stop
      · exact settledPhase_stop
  · rename_i claimed
    rw [not_not] at owned claimed
    rw [settledPhase_of_claimed owned claimed]
    refine (quiet_emitCommittedBatchSuccessFacts _).bind_meets fun _ => ?_
    refine quiet_invokeBatchProgress.bind_meets fun _ => ?_
    split
    · exact meets_bind_of_eq (meets_dispatchBatchTerminal carries claimed) fun _ => trivial
    · exact trivial

theorem meets_executeBatchJob :
    Meets EngineMoves (executeBatchJob r d.context env) (.member d clean) DeliveryStop := by
  unfold executeBatchJob batchProgressCallback
  refine Quiet.bind_meets (Uses.bind (Quiet.ask rfl) fun _ => trivial) fun progress => ?_
  rw [builtin]
  refine (quiet_markBatchJobStarted kind).bind_meets ?_
  rintro (_ | error)
  swap
  · exact .inr (isUncommittedResult_uncommittedMutationError _ _)
  refine Meets.bind (meets_executeStoredJobAttempt carries (.member (.unregistered d clean))
    fun error => .member (.handle d clean error)) ?_
  rintro attempt after ⟨rfl, executed, ordinal⟩
  rw [ordinal]
  cases decision : classifyAttempt d.attempt attempt.error with
  | retry => exact .inl ⟨rfl, by simp [settlementOf, decision]⟩
  | redeliver => exact .inl ⟨rfl, by simp [settlementOf, decision]⟩
  | failed =>
    exact meets_failBatchDelivery builtin carries executed (by simp [settlementOf, decision])
  | succeeded =>
    exact meets_succeedBatchDelivery builtin carries executed (by simp [settlementOf, decision])

omit carries in
/-- Delivering a member keeps to the protocol. -/
theorem meets_handleInternalBatchJob :
    Meets EngineMoves (handleInternalBatchJob r d.context d.env)
      (.member d false) DeliveryStop := by
  unfold handleInternalBatchJob
  split
  · exact meets_executeBatchJob builtin d.carries_env
  · rename_i provenance recovering
    refine Meets.bind (meets_recoverCommittedBatchTransition builtin d.carries_executed) ?_
    rintro (_ | result) after ⟨clean, rfl⟩
    · exact meets_executeBatchJob builtin d.carries_executed
    · exact .inl (Delivery.recovered_eq_true recovering)

end Builtin

end BatchDelivery

end JobQueue.Workflow
