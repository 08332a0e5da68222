import JobQueue.Workflow.Conformance.Quiet

/-!
# Delivering a chain node over the memory store

The delivery of a node is followed through the phases of the protocol, from the
first recovery step to the result it returns. The pieces that do not depend on
the store come first.
-/

namespace JobQueue.Workflow

open Interleaving

/-! ## Envelopes of one delivery -/

/-- An envelope that stands for a delivery: the message itself, or the message
with the attempt number of the worker. -/
structure Delivery.Carries (d : Delivery) (env : Envelope) : Prop where
  dispatchID : env.dispatchID = d.env.dispatchID
  jobID : env.jobID = d.env.jobID
  chainID : env.chainID = d.env.chainID
  batchID : env.batchID = d.env.batchID
  nodeID : env.nodeID = d.env.nodeID
  job : env.job = d.env.job
  executed : applyDeliveryAttempt d.context env = d.executed
  attempt : deliveryAttempt d.context env = d.attempt

namespace Delivery

theorem carries_env (d : Delivery) : d.Carries d.env :=
  ⟨rfl, rfl, rfl, rfl, rfl, rfl, rfl, rfl⟩

theorem carries_executed (d : Delivery) : d.Carries d.executed := by
  unfold executed applyDeliveryAttempt
  cases stamped : d.context.attempt with
  | none => exact d.carries_env
  | some attempt =>
    refine ⟨rfl, rfl, rfl, rfl, rfl, rfl, ?_, ?_⟩
    · simp [executed, applyDeliveryAttempt, stamped]
    · simp [Delivery.attempt, deliveryAttempt, stamped]

/-- The claim built from an executed attempt is the claim of the delivery. -/
theorem claim_eq (d : Delivery) (executed : outcome.env = d.executed) :
    transitionClaimFromOutcome d.context outcome = d.claim := by
  have carries := d.carries_executed
  simp only [transitionClaimFromOutcome, claim, executed, carries.dispatchID,
    carries.jobID, carries.job, DeliveryContext.generationID]

theorem recovered_eq_true {d : Delivery}
    (recovering : recoveredDeliveryProvenance d.context = some provenance) :
    d.recovered = true := by
  simp [recovered, recovering]

end Delivery

/-! ## Shared pieces -/

variable {d : Delivery}

/-- One attempt leads from a phase that may start the handler to the phase
after it ran. -/
theorem meets_executeStoredJobAttempt {env : Envelope} (carries : d.Carries env) {before : Phase}
    {ran : Option GoError -> Phase}
    (unregistered : EngineMoves before (.lookupHandler d.env.job.jobType) false
      (ran (some (missingHandlerError d.env.job.jobType))))
    (handled : ∀ error, EngineMoves before (.handle d.executed) error (ran error)) :
    Meets EngineMoves (executeStoredJobAttempt d.context env) before fun outcome after =>
        after = ran outcome.error ∧ outcome.env = d.executed ∧ outcome.attempt = d.attempt := by
  have job : (applyDeliveryAttempt d.context env).job = d.env.job := by
    rw [carries.executed]
    exact d.carries_executed.job
  unfold executeStoredJobAttempt
  refine quiet_readClock.bind_meets fun started => ?_
  refine (quiet_newID "evt").bind_meets fun id => ?_
  refine (quiet_emit rfl).bind_meets fun _ => ?_
  rw [job]
  intro known
  cases known with
  | false =>
    refine ⟨_, unregistered, ?_⟩
    refine quiet_readClock.bind_meets fun finished => ?_
    exact ⟨rfl, carries.executed, carries.attempt⟩
  | true =>
    refine ⟨before, .quiet _ _ _ rfl, ?_⟩
    show Meets EngineMoves (ask (.handle (applyDeliveryAttempt d.context env)) >>= _) _ _
    rw [carries.executed]
    intro error
    refine ⟨_, handled error, ?_⟩
    refine quiet_readClock.bind_meets fun finished => ?_
    exact ⟨rfl, rfl, carries.attempt⟩

theorem isUncommittedResult_uncommittedMutationError (operation : String) (error : GoError) :
    IsUncommittedResult (some (uncommittedMutationError operation error)) :=
  ⟨_, rfl, isUncommitted_uncommittedMutationError⟩

/-- Enqueueing the successor from a phase that may offer it. -/
theorem meets_dispatchChainSuccessor (carries : d.Carries env)
    (offered : ∀ node id, next = some node ->
      EngineMoves before (.newID "job") id (.nodePosting d node id))
    (omitted : ∀ result, IsUncommittedResult result -> DeliveryStop result before) :
    Meets EngineMoves (dispatchChainSuccessor env next) before DeliveryStop := by
  unfold dispatchChainSuccessor
  cases next with
  | none => exact omitted _ (isUncommittedResult_uncommittedMutationError _ _)
  | some node =>
    intro id
    refine ⟨_, offered node id rfl, ?_⟩
    rw [carries.dispatchID, carries.chainID]
    intro answer
    refine ⟨_, .node (.post d node id answer), ?_⟩
    dsimp only [Prog.bind]
    cases execution : acceptedExecutionError answer with
    | some error =>
      refine (Quiet.ask rfl).bind_meets fun _ => ?_
      show DeliveryStop none (.nodePosted d answer)
      simp [DeliveryStop, accepted, execution]
    | none =>
      cases answer with
      | none =>
        show DeliveryStop none (.nodePosted d none)
        simp [DeliveryStop, accepted]
      | some error =>
        show DeliveryStop _ (.nodePosted d (some error))
        simp only [DeliveryStop, accepted, execution, Option.isNone_some,
          Option.isSome_none, Bool.or_self, Bool.false_eq_true, if_false]
        exact isUncommittedResult_uncommittedMutationError _ _

theorem meets_emitFact (context : DeliveryContext) (eventID : EventID) (env : Envelope)
    (error : Option GoError)
    (report : ∀ event deferred, event.kind = kind ->
      event.chainID = (if kind.ofChain then env.chainID else "") ->
      event.batchID = (if kind.ofChain then "" else env.batchID) ->
        EngineMoves before (.emit event deferred) () after) :
    Meets EngineMoves (emitFact context kind eventID env error) before
      fun _ last => last = after := by
  refine quiet_readClock.bind_meets fun time => ?_
  intro answer
  exact ⟨after, report _ _ rfl rfl rfl, rfl⟩

theorem meets_emitFresh (context : DeliveryContext) (env : Envelope) (error : Option GoError)
    (report : ∀ event deferred, event.kind = kind ->
      event.chainID = (if kind.ofChain then env.chainID else "") ->
      event.batchID = (if kind.ofChain then "" else env.batchID) ->
        EngineMoves before (.emit event deferred) () after) :
    Meets EngineMoves (emitFresh context kind env error) before fun _ last => last = after :=
  (quiet_newID "evt").bind_meets fun _ =>
    meets_emitFact context _ env error report

/-- Continue in the one phase that the first program leads to. -/
theorem meets_bind_of_eq {ρ κ : Type} {first : Engine ρ} {second : ρ -> Engine κ}
    {post : κ -> Phase -> Prop}
    (meets : Meets EngineMoves first before fun _ last => last = after)
    (rest : ∀ result, Meets EngineMoves (second result) after post) :
    Meets EngineMoves (first >>= second) before post := by
  refine Meets.bind meets ?_
  intro result last same
  rw [same]
  exact rest result

/-- A recovery that may report completion and enqueue the successor keeps to the
protocol. -/
theorem meets_recoverChainReceipt {post : Option GoError -> Phase -> Prop}
    (stop : ∀ result, post result before)
    (report : ∀ event deferred, event.kind = .chainCompleted ->
      EngineMoves before (.emit event deferred) () before)
    (successor : Meets EngineMoves (recoverCommittedChainSuccessor env state index) before post) :
    Meets EngineMoves (recoverChainReceipt context provenance env state index receipt)
      before post := by
  unfold recoverChainReceipt
  dsimp only
  split
  · exact stop _
  split
  · exact stop _
  split
  · exact stop _
  split
  · exact stop _
  split
  · exact stop _
  split
  · exact successor
  refine quiet_readClock.bind_meets fun observed => ?_
  split
  · exact stop _
  unfold reportRecoveredChainSuccess
  split
  · refine (quiet_emitStoredJobOutcome _).bind_meets fun _ => ?_
    have reported := meets_emitFact context (chainFactID .chainCompleted env) env none
      fun event deferred kind _ _ => report event deferred kind
    exact meets_bind_of_eq reported fun _ => stop _
  · refine (quiet_emitStoredJobOutcome _).bind_meets fun _ => ?_
    refine (quiet_emitFact _ rfl).bind_meets fun _ => ?_
    exact successor

theorem quiet_recoverCommittedChainFailure {kind : StoreKind} (builtin : r.store = kind.methods) :
    Quiet (recoverCommittedChainFailure r context env) := by
  refine uses_recoverCommittedChainFailure (builtin ▸ quiet_getChain kind) ?_
  rw [builtin]
  cases kind
  · rintro _ ⟨⟩
    exact Quiet.ask rfl
  · rintro _ ⟨⟩
    exact quiet_sqlChainTransitionReceipt _ _

/-! ## Delivery over the memory store -/

section MemoryDelivery

variable {r : Runtime} (builtin : r.store = StoreKind.memory.methods)
  {env : Envelope} (carries : d.Carries env)

/-- What a recovery step leaves behind. -/
def RecoveryEnds (d : Delivery) : Option (Option GoError) -> Phase -> Prop
  | none, after => ∃ seen, after = .node d seen
  | some result, after => DeliveryStop result after

include carries

theorem meets_recoverCommittedChainSuccessor (recovering : d.recovered = true) (index : Nat) :
    Meets EngineMoves (recoverCommittedChainSuccessor env state index)
      (.node d (some state)) DeliveryStop := by
  unfold recoverCommittedChainSuccessor
  split
  · exact recovering
  · refine meets_dispatchChainSuccessor carries ?_ ?_
    · intro node id offered
      exact .node (.recoverPost d state node id recovering offered)
    · intro result _
      exact recovering

include builtin

theorem meets_recoverCommittedChainSuccess :
    Meets EngineMoves (recoverCommittedChainSuccess r d.context env)
      (.node d seen) (RecoveryEnds d) := by
  unfold recoverCommittedChainSuccess
  rw [builtin]
  cases recovery : recoveredDeliveryProvenance d.context with
  | none => exact ⟨seen, rfl⟩
  | some provenance =>
    have recovering := Delivery.recovered_eq_true recovery
    have resume : ∀ {program : Engine (Option GoError)} {phase : Phase},
        Meets EngineMoves program phase DeliveryStop ->
        Meets EngineMoves (program >>= fun result => pure (some result)) phase (RecoveryEnds d) :=
      fun meets => Meets.bind meets fun _ _ stop => stop
    intro answer
    cases answer with
    | error error => exact ⟨_, .quiet _ _ _ rfl, recovering⟩
    | ok state =>
      refine ⟨.node d (some state), ?_, ?_⟩
      · rw [carries.chainID]
        exact .node (.saw d seen state recovering)
      show Meets EngineMoves (if state.chainID ≠ env.chainID then _ else _) _ _
      split
      · exact recovering
      split
      · exact recovering
      split
      · exact recovering
      split
      · exact recovering
      split
      · exact recovering
      split
      · exact ⟨_, rfl⟩
      intro found
      refine ⟨_, .quiet _ _ _ rfl, ?_⟩
      match found with
      | .error error => exact recovering
      | .ok none => exact resume (meets_recoverCommittedChainSuccessor carries recovering _)
      | .ok (some receipt) =>
        refine resume (meets_recoverChainReceipt (fun _ => recovering) ?_
          (meets_recoverCommittedChainSuccessor carries recovering _))
        exact fun event deferred kind => .node (.recoverReport d _ event deferred recovering kind)

theorem meets_recoverCommittedChain :
    Meets EngineMoves (recoverCommittedChain r d.context env) (.node d seen) (RecoveryEnds d) := by
  unfold recoverCommittedChain
  cases recovery : recoveredDeliveryProvenance d.context with
  | none =>
    have skipped : recoverCommittedChainFailure r d.context env = .ret none := by
      simp [recoverCommittedChainFailure, recovery]
    rw [skipped]
    exact meets_recoverCommittedChainSuccess builtin carries
  | some provenance =>
    have recovering := Delivery.recovered_eq_true recovery
    refine (quiet_recoverCommittedChainFailure builtin).bind_meets ?_
    rintro (_ | result)
    · exact meets_recoverCommittedChainSuccess builtin carries
    · exact recovering

omit carries in
theorem meets_settleLostChainFailure
    (recovering : d.recovered = true) (executed : outcome.env = d.executed) :
    Meets EngineMoves (settleLostChainFailure r d.context outcome owned)
      (.node d seen) DeliveryStop := by
  unfold settleLostChainFailure
  split
  · exact recovering
  split
  · refine (quiet_recoverCommittedChainFailure builtin).bind_meets ?_
    rintro (_ | result) <;> exact recovering
  · rw [executed]
    refine Meets.bind (meets_recoverCommittedChain builtin d.carries_executed) ?_
    rintro (_ | result) after ended
    · obtain ⟨last, rfl⟩ := ended
      exact recovering
    · exact ended

omit builtin in
theorem meets_reportChainFailure :
    Meets EngineMoves (reportChainFailure d.context env outcome state)
      (.nodeFailed d) DeliveryStop := by
  unfold reportChainFailure
  refine (quiet_emitStoredJobOutcome _).bind_meets fun _ => ?_
  have reported := meets_emitFresh d.context env (observedChainFailure state outcome.error)
    fun event deferred kind about _ => EngineMoves.node
    (.report d event deferred kind (about.trans carries.chainID))
  refine meets_bind_of_eq reported fun _ => ?_
  refine (quiet_dispatchCallback _ _ _).bind_meets fun _ => ?_
  refine (quiet_dispatchCallback _ _ _).bind_meets fun _ => ?_
  exact (Quiet.ask rfl).bind_meets fun _ => trivial

theorem meets_failChainDelivery (executed : outcome.env = d.executed)
    (decided : settlementOf d outcome.error = some .failed) :
    Meets EngineMoves (failChainDelivery r d.context env outcome)
      (.nodeRan d outcome.error) DeliveryStop := by
  unfold failChainDelivery failChainNodeOutcome
  rw [builtin, d.claim_eq executed, carries.chainID, carries.nodeID]
  intro answer
  match answer with
  | .error refusal =>
    refine ⟨_, .node (.failRefused d _ refusal decided), ?_⟩
    exact .inr (isUncommittedResult_uncommittedMutationError _ _)
  | .ok failed =>
    by_cases lost : ¬failed.owned = true ∨ ¬failed.claimedNow = true
    · cases recovering : d.recovered with
      | true =>
        refine ⟨_, .node (.failRecovered d _ failed recovering), ?_⟩
        refine quiet_markDeliveryTransitionCommitted.bind_meets fun _ => ?_
        rw [if_pos lost]
        exact meets_settleLostChainFailure builtin recovering executed
      | false =>
        refine ⟨_, .node (.failLost d _ failed decided ?_ recovering), ?_⟩
        · simpa using lost
        refine quiet_markDeliveryTransitionCommitted.bind_meets fun _ => ?_
        rw [if_pos lost]
        have ordinary : recoveredDeliveryProvenance d.context = none := by
          simpa [Delivery.recovered] using recovering
        simp only [settleLostChainFailure, ordinary]
        exact trivial
    · have claimed : failed.claimedNow = true := by
        by_contra unclaimed
        exact lost (.inr unclaimed)
      refine ⟨_, .node (.fail d _ failed decided claimed), ?_⟩
      refine quiet_markDeliveryTransitionCommitted.bind_meets fun _ => ?_
      rw [if_neg lost]
      split
      · exact trivial
      split
      · exact trivial
      exact meets_reportChainFailure carries

omit builtin in
theorem meets_settleLostChainSuccess (ordinary : recoveredDeliveryProvenance d.context = none)
    (unclaimed : advance.claimedNow = false) :
    Meets EngineMoves (settleLostChainSuccess r d.context env outcome advance)
      (.nodeAdvanced d advance) DeliveryStop := by
  unfold settleLostChainSuccess
  rw [ordinary]
  cases owned : advance.successOwned with
  | false => exact .inl ⟨rfl, .inr ⟨unclaimed, owned⟩⟩
  | true =>
    simp only [not_true_eq_false, if_false]
    cases done : advance.done with
    | true =>
      have ended : DeliveryStop none (.nodeAdvanced d advance) := .inl ⟨rfl, .inl done⟩
      simp only [if_true]
      split
      · exact ended
      split
      · refine (Quiet.ask rfl).bind_meets fun _ => ?_
        refine (quiet_dispatchCallback _ _ _).bind_meets fun _ => ?_
        exact (Quiet.ask rfl).bind_meets fun _ => ended
      · exact ended
    | false =>
      refine meets_dispatchChainSuccessor carries ?_ ?_
      · intro node id offered
        exact .node (.mintJob d advance node id offered)
      · intro result uncommitted
        exact .inr uncommitted

omit builtin in
theorem meets_reportChainCompletion (outcome : StoredJobOutcome) {advance : ChainAdvanceResult}
    (claimed : advance.claimedNow = true) (done : advance.done = true) :
    Meets EngineMoves (reportChainCompletion d.context env outcome advance.state)
      (.nodeAdvanced d advance) DeliveryStop := by
  have ended : DeliveryStop none (.nodeAdvanced d advance) := .inl ⟨rfl, .inl done⟩
  unfold reportChainCompletion
  split
  · exact ended
  split
  · exact .inr (isUncommittedResult_uncommittedMutationError _ _)
  rename_i completed
  split
  · exact .inr (isUncommittedResult_uncommittedMutationError _ _)
  split
  · exact ended
  refine (quiet_emitStoredJobOutcome _).bind_meets fun _ => ?_
  refine (Quiet.ask rfl).bind_meets fun _ => ?_
  have reported := meets_emitFact d.context (chainFactID .chainCompleted env) env none
    fun event deferred kind about _ => EngineMoves.node
      (.complete d advance event deferred (not_not.mp completed) claimed kind
        (about.trans carries.chainID))
  refine meets_bind_of_eq reported fun _ => ?_
  refine (quiet_dispatchCallback _ _ _).bind_meets fun _ => ?_
  exact (Quiet.ask rfl).bind_meets fun _ => ended

theorem meets_advanceChainDelivery (executed : outcome.env = d.executed)
    (decided : settlementOf d outcome.error = some .succeeded) :
    Meets EngineMoves (advanceChainDelivery r d.context env outcome)
      (.nodeRan d outcome.error) DeliveryStop := by
  unfold advanceChainDelivery advanceChainNode
  rw [builtin, d.claim_eq executed, carries.chainID, carries.nodeID]
  intro answer
  match answer with
  | .error refusal =>
    refine ⟨_, .node (.advanceRefused d _ refusal decided), ?_⟩
    exact .inr (isUncommittedResult_uncommittedMutationError _ _)
  | .ok advance =>
    cases claimed : advance.claimedNow with
    | false =>
      have unclaimed : ¬advance.claimedNow = true := by simp [claimed]
      cases recovery : recoveredDeliveryProvenance d.context with
      | none =>
        refine ⟨_, .node (.advance d _ advance decided), ?_⟩
        refine quiet_markDeliveryTransitionCommitted.bind_meets fun _ => ?_
        rw [if_pos unclaimed]
        exact meets_settleLostChainSuccess carries recovery claimed
      | some provenance =>
        have recovering := Delivery.recovered_eq_true recovery
        refine ⟨_, .node (.advanceRecovered d _ advance recovering), ?_⟩
        refine quiet_markDeliveryTransitionCommitted.bind_meets fun _ => ?_
        rw [if_pos unclaimed]
        unfold settleLostChainSuccess
        rw [recovery, executed]
        split
        · exact recovering
        refine Meets.bind (meets_recoverCommittedChainSuccess builtin d.carries_executed) ?_
        rintro (_ | result) after ended
        · obtain ⟨last, rfl⟩ := ended
          exact recovering
        · exact ended
    | true =>
      refine ⟨_, .node (.advance d _ advance decided), ?_⟩
      refine quiet_markDeliveryTransitionCommitted.bind_meets fun _ => ?_
      rw [if_neg (not_not.mpr claimed)]
      cases done : advance.done with
      | true =>
        simp only [if_true]
        split
        · intro answer
          match answer with
          | .error error =>
            refine ⟨_, .quiet _ _ _ rfl, ?_⟩
            exact .inr (isUncommittedResult_uncommittedMutationError _ _)
          | .ok state =>
            refine ⟨_, .node (.confirm d advance state), ?_⟩
            exact @meets_reportChainCompletion d env carries outcome
              { advance with state := state } claimed done
        · exact meets_reportChainCompletion carries outcome claimed done
      | false =>
        refine (quiet_emitStoredJobOutcome _).bind_meets fun _ => ?_
        refine (quiet_emitFact _ rfl).bind_meets fun _ => ?_
        refine meets_dispatchChainSuccessor carries ?_ ?_
        · intro node id offered
          exact .node (.mintJob d advance node id offered)
        · intro result uncommitted
          exact .inr uncommitted

theorem meets_executeChainNode :
    Meets EngineMoves (executeChainNode r d.context env) (.node d seen) DeliveryStop := by
  unfold executeChainNode
  refine Meets.bind (meets_executeStoredJobAttempt carries
    (.node (.unregistered d seen)) fun error => .node (.handle d seen error)) ?_
  rintro outcome after ⟨rfl, executed, attempt⟩
  rw [attempt]
  cases decision : classifyAttempt d.attempt outcome.error with
  | retry => exact .inl ⟨rfl, by simp [settlementOf, decision]⟩
  | redeliver => exact .inl ⟨rfl, by simp [settlementOf, decision]⟩
  | failed =>
    exact meets_failChainDelivery builtin carries executed (by simp [settlementOf, decision])
  | succeeded =>
    exact meets_advanceChainDelivery builtin carries executed (by simp [settlementOf, decision])

omit carries in
/-- Delivering a node over the memory store keeps to the protocol. -/
theorem meets_handleInternalChainNode :
    Meets EngineMoves (handleInternalChainNode r d.context d.env) (.node d none) DeliveryStop := by
  unfold handleInternalChainNode
  split
  · exact meets_executeChainNode builtin d.carries_env
  · refine Meets.bind (meets_recoverCommittedChain builtin d.carries_executed) ?_
    rintro (_ | result) after ended
    · obtain ⟨seen, rfl⟩ := ended
      exact meets_executeChainNode builtin d.carries_executed
    · exact ended

end MemoryDelivery

end JobQueue.Workflow
