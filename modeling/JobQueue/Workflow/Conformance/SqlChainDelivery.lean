import JobQueue.Workflow.Conformance.ChainDelivery
import JobQueue.Workflow.SqlCalls.Calls

/-!
# Delivering a chain node over the SQL store

Only two things matter here: a failure is reported after the transaction of
this delivery committed it, and completion after the chain was seen completed.
A commit without an answer counts as committed only when the stored receipt
names the claim of the delivery.
-/

namespace JobQueue.Workflow

open Interleaving

theorem done_of_completed
    (disposed : SqlStore.advanceDispositions state nodeID = .ok (owned, disposition))
    (completed : state.completed = true) : disposition.done = true := by
  have advanced := SqlStore.advance_of_advanceDispositions disposed
  unfold chainNodeAdvanceDisposition at advanced
  split at advanced
  · cases advanced
  · rw [if_pos completed] at advanced
    cases advanced
    rfl

theorem running_of_claimable
    (disposed : SqlStore.advanceDispositions state nodeID = .ok (owned, disposition))
    (claimable : disposition.claimable = true) : state.completed = false := by
  obtain ⟨running, _⟩ := isCurrent_of_advance_claimable
    (SqlStore.advance_of_advanceDispositions disposed) claimable
  exact (Bool.or_eq_false_iff.mp running).1

section SqlDelivery

variable {r : Runtime} (builtin : r.store = StoreKind.sql.methods) {d : Delivery}
  (carries : d.Carries env)

/-- Phases in which a delivery over the SQL store may return. -/
def SqlEnded (d : Delivery) (after : Phase) : Prop :=
  after = .sqlNode d ∨ after = .sqlUnsure d ∨ after = .sqlCompleted d ∨
    after = .nodeFailed d ∨ after = .nodeReported d

theorem SqlEnded.stop (ended : SqlEnded d after) : DeliveryStop result after := by
  rcases ended with rfl | rfl | rfl | rfl | rfl <;> exact trivial

theorem SqlEnded.node : SqlEnded d (.sqlNode d) := .inl rfl

/-! ### Failing -/

/-- What failing the node over the SQL store leaves behind. -/
def SqlFailureEnds (d : Delivery) : Except GoError ChainFailureResult -> Phase -> Prop
  | .error _, after => SqlEnded d after
  | .ok failed, after =>
    if failed.claimedNow then after = .nodeFailed d ∧ failed.owned = true
    else after = .sqlNode d

/-- The phase of the delivery while it fails its node. -/
def failingPhase (d : Delivery) : ChainCalls.Phase -> Phase
  | .reading _ => .sqlNode d
  | .claiming _ _ => .sqlNode d
  | .unsure _ => .sqlUnsure d
  | .seen _ => .nodeFailed d
  | .claimed _ => .nodeFailed d

theorem sqlEnded_failingPhase (phase : ChainCalls.Phase) : SqlEnded d (failingPhase d phase) := by
  cases phase <;> simp [SqlEnded, failingPhase]

/-- The moves of the call are moves of the delivery. -/
theorem engineMoves_of_failing {phase : ChainCalls.Phase}
    (moved : ChainCalls.CallMoves d.env.chainID phase operation answer after)
    (same : phase.call = ⟨.fail cause, d.env.nodeID, d.claim⟩) :
    EngineMoves (failingPhase d phase) operation answer (failingPhase d after) ∧
      after.call = ⟨.fail cause, d.env.nodeID, d.claim⟩ := by
  cases moved with
  | selectChain answer => exact ⟨.quiet _ _ _ rfl, same⟩
  | selectReceipt key answer => exact ⟨.quiet _ _ _ rfl, same⟩
  | current waits => exact ⟨.quiet _ _ _ rfl, same⟩
  | recognises valid owned outcome =>
    cases same
    exact ⟨.sqlNode (.confirmFail d _ owned valid outcome), rfl⟩
  | claims transacts =>
    cases same
    cases transacts with
    | advance kind answer => cases kind
    | fail kind answer =>
      cases kind
      match answer with
      | .failed error => exact ⟨.sqlNode (.failOther d _ cause _), rfl⟩
      | .uncertain error => exact ⟨.sqlNode (.failUnsure d _ cause error), rfl⟩
      | .finished none => exact ⟨.sqlNode (.failOther d _ cause _), rfl⟩
      | .finished (some (failed, receipt)) => exact ⟨.sqlNode (.fail d _ failed cause receipt), rfl⟩

/-- The delivery follows the protocol of its call. -/
theorem meets_sqlFailChainOutcome :
    Meets EngineMoves (SqlStore.failChainOutcome d.env.chainID d.env.nodeID cause d.claim)
      (.sqlNode d) (SqlFailureEnds d) := by
  refine Meets.simulate (fun phase image => image = failingPhase d phase ∧
      phase.call = ⟨.fail cause, d.env.nodeID, d.claim⟩) ?_ ?_
    (ChainCalls.meets_failChainOutcome ⟨.fail cause, d.env.nodeID, d.claim⟩ rfl)
    ⟨rfl, rfl⟩
  · rintro phase _ _ after _ moved ⟨rfl, same⟩
    obtain ⟨allowed, kept⟩ := engineMoves_of_failing moved same
    exact ⟨_, allowed, rfl, kept⟩
  · rintro (error | failed) after _ ends ⟨rfl, _⟩
    · exact sqlEnded_failingPhase after
    simp only [ChainCalls.FailureEnds, SqlFailureEnds] at ends ⊢
    split
    · rename_i claimed
      simp only [claimed, if_true] at ends
      refine ⟨?_, ends.1⟩
      cases after <;> first | rfl | cases ends.2
    · rename_i unclaimed
      simp only [unclaimed] at ends
      cases after <;> first | rfl | cases ends

/-! ### Advancing -/

/-- What advancing past the node over the SQL store leaves behind. -/
def SqlAdvanceEnds (d : Delivery) : Except GoError ChainAdvanceResult -> Phase -> Prop
  | .error _, after => SqlEnded d after
  | .ok advance, after =>
    (after = .sqlNode d ∧ ¬(advance.claimedNow = true ∧ advance.state.completed = true)) ∨
    (after = .sqlCompleted d ∧ advance.claimedNow = true ∧ advance.done = true)

theorem meets_settledAdvance :
    Meets EngineMoves
      (SqlStore.settledAdvance d.env.chainID d.env.nodeID claim state owned
        disposition) (.sqlNode d) (SqlAdvanceEnds d) := by
  unfold SqlStore.settledAdvance
  split
  · exact .inl ⟨rfl, by simp⟩
  refine (quiet_sqlChainTransitionReceipt _ _).bind_meets ?_
  rintro (_ | _)
  · exact .node
  · exact .inl ⟨rfl, by simp⟩

/-- Reading the chain, noting a completed one. -/
theorem meets_getChain_completed :
    Meets EngineMoves (SqlStore.getChain d.env.chainID) (.sqlNode d) fun result after =>
        match result with
        | .error _ => after = .sqlNode d
        | .ok state => after = if state.completed then .sqlCompleted d else .sqlNode d := by
  intro answer
  match answer with
  | .error error => exact ⟨_, .quiet _ _ _ rfl, rfl⟩
  | .ok none => exact ⟨_, .quiet _ _ _ rfl, rfl⟩
  | .ok (some state) =>
    cases completed : state.completed with
    | true =>
      refine ⟨_, .sqlNode (.sawCompleted d state completed), ?_⟩
      show Phase.sqlCompleted d = _
      rw [completed, if_pos rfl]
    | false =>
      refine ⟨_, .quiet _ _ _ rfl, ?_⟩
      show Phase.sqlNode d = _
      simp [completed]

theorem meets_readCommittedChainAdvance :
    Meets EngineMoves
      (SqlStore.readCommittedChainAdvance d.env.chainID d.env.nodeID claim
        error) (.sqlNode d) (SqlAdvanceEnds d) := by
  unfold SqlStore.readCommittedChainAdvance
  split
  · exact .node
  refine (quiet_sqlChainTransitionReceipt _ _).bind_meets ?_
  rintro (_ | _ | receipt)
  · exact .node
  · exact .node
  dsimp only
  split
  · exact .node
  refine Meets.bind meets_getChain_completed ?_
  rintro (_ | state) after reached
  · dsimp only at reached
    rw [reached]
    exact .node
  dsimp only at reached
  have ended : SqlEnded d after := by
    rw [reached]
    split
    · exact .inr (.inr (.inl rfl))
    · exact .node
  dsimp only
  split
  · exact ended
  split
  · exact ended
  · exact ended
  · rename_i disposition disposed
    show SqlAdvanceEnds d (.ok _) after
    cases completed : state.completed with
    | true =>
      refine .inr ⟨?_, rfl, done_of_completed disposed completed⟩
      rw [reached, completed, if_pos rfl]
    | false =>
      refine .inl ⟨?_, by simp [completed]⟩
      simp [reached, completed]

theorem meets_lostAdvance :
    Meets EngineMoves (SqlStore.lostAdvance d.env.chainID d.env.nodeID claim)
      (.sqlNode d) (SqlAdvanceEnds d) := by
  unfold SqlStore.lostAdvance
  refine quiet_sqlGetChain.bind_meets ?_
  rintro (_ | state)
  · exact .node
  dsimp only
  split
  · exact .node
  split
  · exact meets_settledAdvance
  split <;> exact .node

theorem meets_sqlAdvanceChainOutcome :
    Meets EngineMoves (SqlStore.advanceChainOutcome d.env.chainID d.env.nodeID d.claim)
      (.sqlNode d) (SqlAdvanceEnds d) := by
  unfold SqlStore.advanceChainOutcome
  refine quiet_sqlGetChain.bind_meets ?_
  rintro (_ | state)
  · exact .node
  dsimp only
  split
  · exact .node
  rename_i owned disposition disposed
  split
  · exact meets_settledAdvance
  rename_i claimable
  split
  · exact .node
  have running := running_of_claimable disposed (by simpa using claimable)
  intro answer
  match answer with
  | .failed error => exact ⟨_, .sqlNode (.advanceOther d state _), .node⟩
  | .uncertain error =>
    exact ⟨_, .sqlNode (.advanceOther d state _), meets_readCommittedChainAdvance⟩
  | .finished none => exact ⟨_, .sqlNode (.advanceOther d state _), meets_lostAdvance⟩
  | .finished (some (advanced, receipt)) =>
    cases completed : advanced.completed with
    | true =>
      refine ⟨_, .sqlNode (.advance d state advanced receipt completed running), ?_⟩
      show Meets EngineMoves (if advanced.completed = true then _ else _) _ _
      rw [if_pos completed]
      exact .inr ⟨rfl, rfl, rfl⟩
    | false =>
      refine ⟨_, .sqlNode (.advanceOther d state _), ?_⟩
      show Meets EngineMoves (if advanced.completed = true then _ else _) _ _
      rw [if_neg (by simp [completed])]
      exact .inl ⟨rfl, by simp [completed]⟩

/-! ### Handling -/

variable (about : env.chainID = d.env.chainID)
include about

/-- Enqueueing a successor leaves the phase as it is. -/
theorem meets_sqlDispatchChainSuccessor :
    Meets EngineMoves (dispatchChainSuccessor env next) (.sqlNode d)
      fun _ after => after = .sqlNode d := by
  unfold dispatchChainSuccessor
  cases next with
  | none => exact rfl
  | some node =>
    refine (quiet_newID "job").bind_meets fun id => ?_
    intro answer
    refine ⟨_, .sqlNode (.post d _ answer about), ?_⟩
    dsimp only [Prog.bind]
    split
    · exact (Quiet.ask rfl).bind_meets fun _ => rfl
    · cases answer <;> exact rfl

theorem meets_sqlRecoverCommittedChainSuccessor :
    Meets EngineMoves (recoverCommittedChainSuccessor env state index)
      (.sqlNode d) fun _ after => after = .sqlNode d := by
  unfold recoverCommittedChainSuccessor
  split
  · exact rfl
  · exact meets_sqlDispatchChainSuccessor about

include builtin

theorem meets_sqlRecoverCommittedChainSuccess :
    Meets EngineMoves (recoverCommittedChainSuccess r d.context env)
      (.sqlNode d) fun _ after => after = .sqlNode d := by
  unfold recoverCommittedChainSuccess
  rw [builtin]
  cases recovery : recoveredDeliveryProvenance d.context with
  | none => exact rfl
  | some provenance =>
    have recovering := Delivery.recovered_eq_true recovery
    refine quiet_sqlGetChain.bind_meets ?_
    rintro (_ | state)
    · exact rfl
    dsimp only
    split
    · exact rfl
    split
    · exact rfl
    split
    · exact rfl
    split
    · exact rfl
    split
    · exact rfl
    split
    · exact rfl
    refine (quiet_sqlChainTransitionReceipt _ _).bind_meets ?_
    rintro (_ | _ | receipt)
    · exact rfl
    · exact meets_bind_of_eq (meets_sqlRecoverCommittedChainSuccessor about) fun _ => rfl
    · refine meets_bind_of_eq (meets_recoverChainReceipt (fun _ => rfl) ?_
        (meets_sqlRecoverCommittedChainSuccessor about)) fun _ => rfl
      exact fun event deferred kind => .sqlNode (.recoverReport d event deferred recovering kind)

theorem meets_sqlRecoverCommittedChain :
    Meets EngineMoves (recoverCommittedChain r d.context env)
      (.sqlNode d) fun _ after => after = .sqlNode d := by
  refine (quiet_recoverCommittedChainFailure builtin).bind_meets ?_
  rintro (_ | result)
  · exact meets_sqlRecoverCommittedChainSuccess builtin about
  · exact rfl

omit about
include carries

theorem meets_sqlFailChainDelivery (executed : outcome.env = d.executed) :
    Meets EngineMoves (failChainDelivery r d.context env outcome) (.sqlNode d) DeliveryStop := by
  unfold failChainDelivery failChainNodeOutcome
  rw [builtin, d.claim_eq executed, carries.chainID, carries.nodeID]
  refine Meets.bind meets_sqlFailChainOutcome ?_
  rintro (_ | failed) after ended
  · exact SqlEnded.stop ended
  refine quiet_markDeliveryTransitionCommitted.bind_meets fun _ => ?_
  cases claimed : failed.claimedNow with
  | false =>
    simp only [SqlFailureEnds, claimed, Bool.false_eq_true, if_false] at ended
    subst ended
    simp only [Bool.false_eq_true, not_false_eq_true, or_true, if_true]
    unfold settleLostChainFailure
    split
    · exact trivial
    split
    · refine (quiet_recoverCommittedChainFailure builtin).bind_meets ?_
      rintro (_ | result) <;> exact trivial
    · rw [executed]
      refine meets_bind_of_eq (meets_sqlRecoverCommittedChain builtin d.carries_executed.chainID) ?_
      rintro (_ | result) <;> exact trivial
  | true =>
    simp only [SqlFailureEnds, claimed, if_true] at ended
    obtain ⟨rfl, owned⟩ := ended
    simp only [owned, not_true_eq_false, or_self, if_false]
    split
    · exact trivial
    split
    · exact trivial
    exact meets_reportChainFailure carries

omit builtin in
theorem meets_sqlReportChainCompletion
    (reached : phase = .sqlCompleted d ∨ (phase = .sqlNode d ∧ state.completed = false)) :
    Meets EngineMoves (reportChainCompletion d.context env outcome state) phase DeliveryStop := by
  unfold reportChainCompletion
  rcases reached with rfl | ⟨rfl, running⟩
  · split
    · exact trivial
    split
    · exact trivial
    split
    · exact trivial
    split
    · exact trivial
    refine (quiet_emitStoredJobOutcome _).bind_meets fun _ => ?_
    refine (Quiet.ask rfl).bind_meets fun _ => ?_
    have reported := meets_emitFact d.context (chainFactID .chainCompleted env) env none fun event
      deferred kind about _ => EngineMoves.sqlNode
      (.complete d event deferred kind (about.trans carries.chainID))
    refine meets_bind_of_eq reported fun _ => ?_
    refine (quiet_dispatchCallback _ _ _).bind_meets fun _ => ?_
    exact (Quiet.ask rfl).bind_meets fun _ => trivial
  · simp only [running, Bool.false_eq_true, not_false_eq_true, true_and, if_true]
    split <;> exact trivial

theorem meets_sqlSettleLostChainSuccess (executed : outcome.env = d.executed) :
    Meets EngineMoves (settleLostChainSuccess r d.context env outcome advance)
      (.sqlNode d) DeliveryStop := by
  unfold settleLostChainSuccess
  split
  · exact trivial
  split
  · rw [executed]
    refine meets_bind_of_eq (meets_sqlRecoverCommittedChainSuccess builtin
      d.carries_executed.chainID) ?_
    rintro (_ | result) <;> exact trivial
  split
  · split
    · exact trivial
    split
    · refine (Quiet.ask rfl).bind_meets fun _ => ?_
      refine (quiet_dispatchCallback _ _ _).bind_meets fun _ => ?_
      exact (Quiet.ask rfl).bind_meets fun _ => trivial
    · exact trivial
  · exact Meets.weaken (meets_sqlDispatchChainSuccessor carries.chainID)
      fun _ _ same => by rw [same]; exact trivial

theorem meets_sqlAdvanceChainDelivery (executed : outcome.env = d.executed) :
    Meets EngineMoves (advanceChainDelivery r d.context env outcome) (.sqlNode d) DeliveryStop := by
  unfold advanceChainDelivery advanceChainNode
  rw [builtin, d.claim_eq executed, carries.chainID, carries.nodeID]
  refine Meets.bind meets_sqlAdvanceChainOutcome ?_
  rintro (_ | advance) after ended
  · exact SqlEnded.stop ended
  refine quiet_markDeliveryTransitionCommitted.bind_meets fun _ => ?_
  split
  · rename_i unclaimed
    rcases ended with ⟨rfl, _⟩ | ⟨_, claimed, _⟩
    · exact meets_sqlSettleLostChainSuccess builtin carries executed
    · exact absurd claimed unclaimed
  rename_i claimed
  have claimed := not_not.mp claimed
  split
  · have reached : after = .sqlCompleted d ∨
        (after = .sqlNode d ∧ advance.state.completed = false) := by
      rcases ended with ⟨same, unfinished⟩ | ⟨same, _⟩
      · exact .inr ⟨same, by simpa [claimed] using unfinished⟩
      · exact .inl same
    split
    · rcases reached with rfl | ⟨rfl, _⟩
      · refine quiet_sqlGetChain.bind_meets ?_
        rintro (_ | state)
        · exact trivial
        · exact meets_sqlReportChainCompletion carries (.inl rfl)
      · refine Meets.bind meets_getChain_completed ?_
        rintro (_ | state) last reached
        · rw [reached]
          exact trivial
        · refine meets_sqlReportChainCompletion carries ?_
          cases completed : state.completed with
          | true => exact .inl (by simp [reached, completed])
          | false => exact .inr ⟨by simp [reached, completed], rfl⟩
    · exact meets_sqlReportChainCompletion carries reached
  · rename_i notDone
    rcases ended with ⟨rfl, _⟩ | ⟨_, _, done⟩
    · refine (quiet_emitStoredJobOutcome _).bind_meets fun _ => ?_
      refine (quiet_emitFact _ rfl).bind_meets fun _ => ?_
      exact Meets.weaken (meets_sqlDispatchChainSuccessor carries.chainID)
        fun _ _ same => by rw [same]; exact trivial
    · exact absurd done notDone

theorem meets_sqlExecuteChainNode :
    Meets EngineMoves (executeChainNode r d.context env) (.sqlNode d) DeliveryStop := by
  unfold executeChainNode
  have ran := @meets_executeStoredJobAttempt d env carries (.sqlNode d)
    (fun _ => .sqlNode d) (.quiet _ _ _ rfl)
    fun error => .sqlNode (.handle d error)
  refine Meets.bind ran ?_
  rintro outcome after ⟨rfl, executed, _⟩
  split
  · exact trivial
  · exact trivial
  · exact meets_sqlFailChainDelivery builtin carries executed
  · exact meets_sqlAdvanceChainDelivery builtin carries executed

omit carries in
/-- Delivering a node over the SQL store keeps to the protocol. -/
theorem meets_sqlHandleInternalChainNode :
    Meets EngineMoves (handleInternalChainNode r d.context d.env) (.sqlNode d) DeliveryStop := by
  unfold handleInternalChainNode
  split
  · exact meets_sqlExecuteChainNode builtin d.carries_env
  · refine meets_bind_of_eq (meets_sqlRecoverCommittedChain builtin d.carries_executed.chainID) ?_
    rintro (_ | result)
    · exact meets_sqlExecuteChainNode builtin d.carries_executed
    · exact trivial

end SqlDelivery

end JobQueue.Workflow
