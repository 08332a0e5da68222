import JobQueue.Workflow.Recovery.Honest

/-!
# Recovered facts

A success is reported twice by different programs: by the delivery that claimed
it, from the outcome of its handler, and by every recovery of that delivery,
from the receipt and the replayed message. Consumers can drop the repetition
only when both report the same facts under the same identifiers.
-/

namespace JobQueue.Workflow

open Interleaving

/-! ## Facts -/

/-- What consumers compare of an event: everything but its instants. -/
structure Fact where
  kind : EventKind
  eventID : EventID
  dispatchID : String
  jobID : String
  chainID : String
  batchID : String
  attempt : Int
  jobType : String
  jobKey : JobKey
  queue : String
  deriving DecidableEq, Repr

/-- The fact that an event reports. -/
def Event.fact (event : Event) : Fact where
  kind := event.kind
  eventID := event.eventID
  dispatchID := event.dispatchID
  jobID := event.jobID
  chainID := event.chainID
  batchID := event.batchID
  attempt := event.attempt
  jobType := event.jobType
  jobKey := event.jobKey
  queue := event.queue

/-- The positive fact that an operation registers for emission. -/
def Op.fact : Op -> Option Fact
  | .emit event _ =>
    if eventWaitsForDeliverySettlement event.kind then some event.fact
    else none
  | _ => none

/-- The positive facts of a log. -/
def facts (log : List (Entry Op Op.Answer)) : List Fact := select Op.fact log

@[simp] theorem facts_append : facts (before ++ after) = facts before ++ facts after :=
  select_append before after

/-- The program registers no positive fact. -/
abbrev Factless {ρ : Type} (program : Engine ρ) : Prop :=
  Unseen Op.fact program

variable {ρ : Type}

theorem Stored.factless (stored : Stored program) : Factless program := by
  refine Uses.weaken stored fun operation known => ?_
  cases operation <;> first | rfl | cases known

theorem Aside.factless (aside : Aside program) : Factless program := by
  refine Uses.weaken aside fun operation known => ?_
  unfold Op.aside at known
  split at known <;> first | rfl | cases known

theorem facts_of_stored (stored : ∀ entry ∈ log, entry.1.stored = true) : facts log = [] := by
  refine select_eq_nil fun entry member => ?_
  have known := stored entry member
  generalize entry.1 = operation at known
  cases operation <;> first | rfl | cases known

/-- The success of a job with complete correlation. -/
def successFact (env : Envelope) : Fact where
  kind := .jobSucceeded
  eventID := .stable .jobSucceeded
    { fields := [env.dispatchID, env.jobID, env.chainID, env.batchID, env.job.jobType]
      key := storedJobEventKey env.job
      queue := env.job.options.queue
      attempt := some env.attempt }
  dispatchID := env.dispatchID
  jobID := env.jobID
  chainID := env.chainID
  batchID := env.batchID
  attempt := env.attempt
  jobType := env.job.jobType
  jobKey := storedJobEventKey env.job
  queue := env.job.options.queue

/-- A fact about the chain or about the batch of a job. -/
def workflowFact (kind : EventKind) (eventID : EventID) (env : Envelope) : Fact where
  kind := kind
  eventID := eventID
  dispatchID := env.dispatchID
  jobID := env.jobID
  chainID := if kind.ofChain then env.chainID else ""
  batchID := if kind.ofChain then "" else env.batchID
  attempt := 0
  jobType := env.job.jobType
  jobKey := storedJobEventKey env.job
  queue := env.job.options.queue

/-- The facts of a node that succeeded. -/
def nodeFacts (env : Envelope) (final : Bool) : List Fact :=
  let kind : EventKind := if final then .chainCompleted else .chainAdvanced
  [successFact env, workflowFact kind (chainFactID kind env) env]

/-- The facts of a batch member that succeeded. -/
def memberFacts (env : Envelope) (completes : Bool) : List Fact :=
  [successFact env, workflowFact .batchProgressed (batchFactID .batchProgressed env) env] ++
  if completes then
    [workflowFact .batchCompleted (batchFactID .batchCompleted env) env]
  else []

section Programs

variable {r : Runtime}

theorem leaves_fact_emitFact (positive : eventWaitsForDeliverySettlement kind = true) :
    Leaves Op.fact environment (emitFact context kind eventID env error)
      fun seen _ => seen = [workflowFact kind eventID env] := by
  refine Leaves.skip (uses_ask rfl) fun time => ?_
  refine Leaves.weaken Leaves.perform ?_
  rintro _ _ rfl
  simp [Op.fact, positive, Event.fact, workflowFact]

/-- A success with complete correlation is reported under its stable
identifier. -/
theorem leaves_fact_emitStoredJobOutcome (succeeded : outcome.error = none)
    (dispatched : outcome.env.dispatchID ≠ "") (identified : outcome.env.jobID ≠ "") :
    Leaves Op.fact environment (emitStoredJobOutcome context outcome)
      fun seen _ => seen = [successFact outcome.env] := by
  unfold emitStoredJobOutcome storedJobOutcomeFactID
  rw [if_neg (by simp [succeeded])]
  simp only [succeeded, if_true]
  rw [if_neg (by simp [dispatched, identified])]
  refine Leaves.weaken Leaves.perform ?_
  rintro _ _ rfl
  simp [Op.fact, eventWaitsForDeliverySettlement, Event.fact, successFact]

theorem factless_dispatchChainSuccessor : Factless (dispatchChainSuccessor env next) := by
  cases next with
  | none => exact trivial
  | some node =>
    refine Uses.bind (uses_ask rfl) fun id => ?_
    refine Uses.bind (uses_ask rfl) fun result => ?_
    split
    · exact Uses.bind (uses_ask rfl) fun _ => trivial
    · split <;> exact trivial

theorem factless_recoverCommittedChainSuccessor :
    Factless (recoverCommittedChainSuccessor env state index) := by
  unfold recoverCommittedChainSuccessor
  split
  · exact trivial
  · exact factless_dispatchChainSuccessor

/-- A successful attempt registers nothing itself. -/
theorem leaves_fact_executeStoredJobAttempt
    (registered : ∀ answer, environment.answers
      (.lookupHandler (applyDeliveryAttempt context env).job.jobType) answer ->
      answer = true)
    (handled : ∀ answer, environment.answers (.handle (applyDeliveryAttempt context env)) answer ->
      answer = (none : Option GoError)) :
    Leaves Op.fact environment (executeStoredJobAttempt context env) fun seen outcome => seen = [] ∧
      outcome.env = applyDeliveryAttempt context env ∧ outcome.error = none := by
  refine Leaves.skip (uses_ask rfl) fun started => ?_
  refine Leaves.skip (uses_ask rfl) fun id => ?_
  refine Leaves.skip (uses_ask rfl) fun _ => ?_
  refine Leaves.skip_knowing (uses_ask rfl) (Ensures.perform registered) ?_
  rintro _ rfl
  refine Leaves.skip_knowing (uses_ask rfl) (Ensures.perform handled) ?_
  rintro _ rfl
  refine Leaves.skip (uses_ask rfl) fun finished => ?_
  exact Leaves.ret ⟨rfl, rfl, rfl⟩

/-! ## The claiming delivery -/

/-- The handler of the delivery is registered and succeeds. -/
structure Succeeds (surroundings : Environment Op Op.Answer) (d : Delivery) : Prop where
  registered : ∀ answer, surroundings.answers (.lookupHandler d.env.job.jobType) answer ->
    answer = true
  handled : ∀ answer, surroundings.answers (.handle d.executed) answer ->
    answer = (none : Option GoError)

/-- The answer to a claimed success tells what its receipt tells: whether the
chain is complete. -/
inductive TellsNode (nodeID : String) (receipt : TransitionReceipt)
    (advance : ChainAdvanceResult) : Prop
  | inner (undone : advance.done = false) (unfinished : receipt.aggregateCompleted = false)
  | final (done : advance.done = true) (named : advance.state.chainID ≠ "")
      (completed : advance.state.completed = true) (index : Nat)
      (position : chainNodePosition advance.state.nodes nodeID = some index)
      (last : index + 1 = advance.state.nodes.length) (owns : receipt.aggregateCompleted = true)

/-- The answer of a store that advances the chain. -/
theorem TellsNode.of_advance {state : ChainState} (ordered : state.Ordered)
    (current : state.IsCurrent nodeID) (done : advance.done = (state.advance now).completed)
    (same : advance.state = state.advance now)
    (owns : receipt.aggregateCompleted = (state.advance now).completed) :
    TellsNode nodeID receipt advance := by
  obtain ⟨running, index, position, here⟩ := current
  cases completes : (state.advance now).completed with
  | false => exact .inner (done.trans completes) (owns.trans completes)
  | true =>
    refine .final (done.trans completes) ?_ (same ▸ completes) index (same ▸ position) ?_
      (owns.trans completes)
    · rw [same]
      exact (validateChainRecord_eq_none ordered.accepted).1
    · simp only [ChainState.terminal, Bool.or_eq_false_iff] at running
      have inRange := ordered.nextIndex_lt running.1
      simp only [ChainState.advance, running.1, Bool.false_or, decide_eq_true_iff] at completes
      rw [same]
      simp only [ChainState.advance]
      omega

/-- The store commits the success of the node for the delivery and leaves a
receipt. -/
structure ClaimsNode (surroundings : Environment Op Op.Answer) (r : Runtime) (d : Delivery)
    (receipt : TransitionReceipt) : Prop where
  valid : d.claim.valid = true
  owner : receipt.owner = d.claim
  outcome : receipt.outcome = .succeeded
  claimed : Ensures surroundings
    (advanceChainNode r d.env.chainID d.env.nodeID d.claim) fun _ answer =>
      ∃ advance, answer = .ok advance ∧ advance.claimedNow = true ∧
        TellsNode d.env.nodeID receipt advance

/-- The store commits the success of the member for the delivery and leaves a
receipt, which owns the completion that the answer shows. -/
structure ClaimsMember (surroundings : Environment Op Op.Answer) (r : Runtime) (d : Delivery)
    (receipt : TransitionReceipt) : Prop where
  valid : d.claim.valid = true
  owner : receipt.owner = d.claim
  outcome : receipt.outcome = .succeeded
  supported : receipt.supported = true
  uncancelled : receipt.aggregateCancelled = false
  claimed : Ensures surroundings (settleBatchJob r d.env.batchID d.env.jobID .succeeded d.claim)
    fun _ answer => ∃ settled, answer = .ok settled ∧ settled.owned = true ∧
      settled.claimedNow = true ∧ settled.receipt = some receipt ∧
      (receipt.aggregateCompleted = true ->
        settled.state.completed = true ∧ settled.state.cancelled = false)

variable {d : Delivery} {receipt : TransitionReceipt}

/-- A complete claim has the correlation that stable identifiers need. -/
theorem correlated_of_valid (valid : d.claim.valid = true) :
    d.executed.dispatchID ≠ "" ∧ d.executed.jobID ≠ "" := by
  simp only [TransitionClaim.valid, Bool.and_eq_true, bne_iff_ne, ne_eq, Delivery.claim] at valid
  rw [d.carries_executed.dispatchID, d.carries_executed.jobID]
  tauto

/-- Facts about the workflow do not depend on the attempt. -/
theorem workflowFact_chain_carries (carries : d.Carries env) :
    workflowFact kind (chainFactID kind env) env =
      workflowFact kind (chainFactID kind d.executed) d.executed := by
  have executed := d.carries_executed
  simp only [workflowFact, chainFactID, carries.dispatchID, carries.chainID, carries.nodeID,
    carries.jobID, carries.job, carries.batchID, executed.dispatchID, executed.chainID,
    executed.nodeID, executed.jobID, executed.job, executed.batchID]

theorem workflowFact_batch_carries (carries : d.Carries env) :
    workflowFact kind (batchFactID kind env) env =
      workflowFact kind (batchFactID kind d.executed) d.executed := by
  have executed := d.carries_executed
  simp only [workflowFact, batchFactID, carries.dispatchID, carries.chainID,
    carries.jobID, carries.job, carries.batchID, executed.dispatchID,
    executed.chainID, executed.jobID, executed.job, executed.batchID]

theorem Succeeds.leaves_attempt (succeeds : Succeeds surroundings d) (carries : d.Carries env) :
    Leaves Op.fact surroundings (executeStoredJobAttempt d.context env)
      fun seen outcome => seen = [] ∧ outcome.env = d.executed ∧ outcome.error = none := by
  rw [← carries.executed]
  refine leaves_fact_executeStoredJobAttempt ?_ ?_
  · rw [carries.executed, d.carries_executed.job]
    exact succeeds.registered
  · rw [carries.executed]
    exact succeeds.handled

variable {kind : StoreKind}

/-- The last node reports its success and the completion. -/
theorem leaves_fact_reportChainCompletion
    (reports : Leaves Op.fact environment
      (emitStoredJobOutcome context outcome) fun facts _ => facts = seen)
    (completed : state.completed = true)
    (position : chainNodePosition state.nodes env.nodeID = some index)
    (last : index + 1 = state.nodes.length) :
    Leaves Op.fact environment (reportChainCompletion context env outcome state)
      fun facts _ => facts = seen ++
        [workflowFact .chainCompleted (chainFactID .chainCompleted env) env] := by
  unfold reportChainCompletion
  rw [if_neg (by simp [completed]), if_neg (by simp [completed])]
  simp only [position, last, ne_eq, not_true_eq_false, if_false]
  refine Leaves.bind reports ?_
  rintro _ _ rfl
  refine Leaves.skip (uses_ask rfl) fun _ => ?_
  refine Leaves.bind (leaves_fact_emitFact rfl) ?_
  rintro _ _ rfl
  refine Leaves.skip aside_dispatchCallback.factless fun _ => ?_
  refine Leaves.skip (uses_ask rfl) fun _ => ?_
  exact Leaves.ret (by simp)

/-- The node that claimed its success reports it. -/
theorem leaves_fact_executeChainNode
    (passive : r.store.Passive) (succeeds : Succeeds surroundings d)
    (claims : ClaimsNode surroundings r d receipt) (carries : d.Carries env) :
    Leaves Op.fact surroundings (executeChainNode r d.context env) fun seen _ => seen =
        nodeFacts d.executed receipt.aggregateCompleted := by
  obtain ⟨dispatched, identified⟩ := correlated_of_valid claims.valid
  refine Leaves.bind (succeeds.leaves_attempt carries) ?_
  rintro _ outcome ⟨rfl, executed, succeeded⟩
  simp only [List.nil_append, succeeded, classifyAttempt_none]
  have reported : Leaves Op.fact surroundings (emitStoredJobOutcome d.context outcome)
      fun seen _ => seen = [successFact d.executed] := by
    rw [← executed] at dispatched identified ⊢
    exact leaves_fact_emitStoredJobOutcome succeeded dispatched identified
  unfold advanceChainDelivery
  rw [d.claim_eq executed, carries.chainID, carries.nodeID]
  refine Leaves.skip_knowing (stored_advanceChainNode passive).factless claims.claimed ?_
  rintro _ ⟨advance, rfl, claimed, tells⟩
  refine Leaves.skip aside_markDeliveryTransitionCommitted.factless fun _ => ?_
  rw [if_neg (by simp [claimed])]
  cases tells with
  | inner undone unfinished =>
    rw [if_neg (by simp [undone])]
    refine Leaves.bind reported ?_
    rintro _ _ rfl
    refine Leaves.bind (leaves_fact_emitFact rfl) ?_
    rintro _ _ rfl
    refine Leaves.weaken (Leaves.of_unseen factless_dispatchChainSuccessor) ?_
    rintro _ _ rfl
    simp [nodeFacts, unfinished, workflowFact_chain_carries carries]
  | final done named completed index position last owns =>
    rw [if_pos done, if_neg named]
    rw [← carries.nodeID] at position
    refine Leaves.weaken (leaves_fact_reportChainCompletion reported completed position last) ?_
    rintro _ _ rfl
    simp [nodeFacts, owns, workflowFact_chain_carries carries]

/-- A success recovery that leaves the delivery to its handler registered
nothing. -/
theorem leaves_fact_recoverCommittedChain_none (passive : r.store.Passive)
    (recovered : recoveredDeliveryProvenance context = some provenance) :
    Leaves Op.fact environment (recoverCommittedChain r context env)
      fun seen result => result = none -> seen = [] := by
  refine Leaves.skip (stored_recoverCommittedChainFailure passive).factless ?_
  rintro (_ | result)
  · change Leaves Op.fact environment (recoverCommittedChainSuccess r context env) _
    obtain ⟨continuation, same, failed, stages⟩ :
        ∃ continuation, recoverCommittedChainSuccess r context env =
          r.store.getChain env.chainID >>= continuation ∧ _ ∧ _ :=
      recoverCommittedChainSuccess_stages recovered
    rw [same]
    refine Leaves.skip (passive.getChain _).factless ?_
    rintro (error | state)
    · rw [failed error]
      exact Leaves.ret fun _ => rfl
    · have stage := stages state
      generalize continuation (.ok state) = program at stage
      cases stage with
      | refused | waiting => exact Leaves.ret fun _ => rfl
      | owned index =>
        refine Ensures.weaken (ensures_recoverOwnedSuccess passive) ?_
        exact fun _ _ met absent => absurd absent met.1
  · exact Leaves.ret fun _ => rfl

/-- The delivery that claimed the success of its node reports it. -/
theorem facts_handleInternalChainNode (passive : r.store.Passive)
    (succeeds : Succeeds surroundings d) (claims : ClaimsNode surroundings r d receipt) :
    Ensures surroundings (handleInternalChainNode r d.context d.env) fun log _ => HandlerRan log ->
        facts log = nodeFacts d.executed receipt.aggregateCompleted := by
  unfold handleInternalChainNode
  cases recovering : recoveredDeliveryProvenance d.context with
  | none =>
    refine Ensures.weaken (leaves_fact_executeChainNode passive succeeds claims d.carries_env) ?_
    exact fun _ _ reported _ => reported
  | some provenance =>
    refine Ensures.bind (Ensures.and (ensures_recoverCommittedChain passive recovering)
      (leaves_fact_recoverCommittedChain_none passive recovering)) ?_
    rintro before result ⟨⟨justified, _⟩, nothing⟩
    cases result with
    | some result =>
      refine Ensures.ret fun ran => ?_
      rw [List.append_nil] at ran
      exact absurd ran justified.not_handlerRan
    | none =>
      refine Ensures.weaken (leaves_fact_executeChainNode passive succeeds
        claims d.carries_executed) ?_
      intro after _ reported _
      rw [facts_append, show facts before = [] from nothing rfl]
      exact reported

/-! ### Members -/

theorem stored_settleBatchJob (builtin : r.store = kind.methods) (outcome : BatchJobOutcome) :
    Stored (settleBatchJob r batchID jobID outcome claim) := by
  cases kind with
  | memory =>
    unfold settleBatchJob
    rw [builtin]
    exact ⟨rfl, fun _ => trivial⟩
  | sql =>
    have terminal : ∀ outcome, Stored (SqlStore.markBatchTerminal batchID jobID outcome claim) := by
      intro outcome
      refine Uses.bind SqlStore.stored_sql fun answer => ?_
      split
      · exact trivial
      · unfold SqlStore.readCommittedBatchSettlement
        split
        · exact trivial
        refine Uses.bind (SqlStore.stored_batchTransitionReceipt _ _) fun answer => ?_
        split
        · exact trivial
        · exact trivial
        split
        · exact trivial
        refine Uses.bind (SqlStore.uses_getBatch rfl) fun answer => ?_
        split <;> exact trivial
      · exact trivial
    unfold settleBatchJob
    rw [builtin]
    cases outcome with
    | succeeded | failed => exact terminal _
    | unsupported => exact trivial

theorem stored_markBatchJobStarted (builtin : r.store = kind.methods) (batchID jobID : String) :
    Stored (r.store.markBatchJobStarted batchID jobID) := by
  rw [builtin]
  cases kind with
  | memory => exact ⟨rfl, fun _ => trivial⟩
  | sql => exact SqlStore.uses_markBatchJobStarted rfl rfl

/-- The facts of a settled member, without the completion. -/
theorem leaves_fact_emitCommittedBatchSuccessFacts (carries : d.Carries env)
    (executed : outcome.env = d.executed) (valid : d.claim.valid = true) :
    Leaves Op.fact environment (emitCommittedBatchSuccessFacts context env outcome)
      fun seen _ => seen = memberFacts d.executed false := by
  obtain ⟨dispatched, identified⟩ := correlated_of_valid valid
  rw [← executed] at dispatched identified
  have succeeded : ({ outcome with error := none } : StoredJobOutcome).error = none := rfl
  refine Leaves.bind (leaves_fact_emitStoredJobOutcome succeeded dispatched identified) ?_
  rintro _ _ rfl
  refine Leaves.weaken (leaves_fact_emitFact rfl) ?_
  rintro _ _ rfl
  simp [memberFacts, executed, workflowFact_batch_carries carries]

/-- A completion is reported with the callbacks. -/
theorem leaves_fact_dispatchBatchTerminal
    (completed : state.completed = true) (live : state.cancelled = false) :
    Leaves Op.fact environment (dispatchBatchTerminal context env state) fun seen _ => seen =
        [workflowFact .batchCompleted (batchFactID .batchCompleted env) env] := by
  unfold dispatchBatchTerminal
  rw [if_pos (by simp [completed, live])]
  refine Leaves.bind (leaves_fact_emitFact rfl) ?_
  rintro _ _ rfl
  refine Leaves.weaken (Leaves.of_unseen (aside_dispatchBatchTerminalCallbacks state).factless) ?_
  rintro _ _ rfl
  rfl

/-- The member that claimed its success reports it. -/
theorem leaves_fact_succeedBatchDelivery (builtin : r.store = kind.methods)
    (claims : ClaimsMember surroundings r d receipt) (carries : d.Carries env)
    (executed : outcome.env = d.executed) :
    Leaves Op.fact surroundings (succeedBatchDelivery r d.context env outcome progress)
      fun seen _ => seen = memberFacts d.executed receipt.aggregateCompleted := by
  unfold succeedBatchDelivery
  rw [d.claim_eq executed, carries.batchID, carries.jobID]
  refine Leaves.skip_knowing (stored_settleBatchJob builtin _).factless claims.claimed ?_
  rintro _ ⟨settled, rfl, owned, claimed, recorded, completes⟩
  refine Leaves.skip aside_markDeliveryTransitionCommitted.factless fun _ => ?_
  rw [if_neg (by simp [owned])]
  dsimp only
  rw [if_neg (by simp [claimed])]
  refine Leaves.bind (leaves_fact_emitCommittedBatchSuccessFacts carries executed claims.valid) ?_
  rintro _ _ rfl
  refine Leaves.skip (aside_invokeBatchProgress _).factless fun _ => ?_
  cases owns : receipt.aggregateCompleted with
  | false =>
    have elsewhere : batchSettlementOwnsTerminal settled .succeeded =
        false := by
      simp [batchSettlementOwnsTerminal, recorded, owns]
    rw [elsewhere]
    exact Leaves.ret (by simp)
  | true =>
    obtain ⟨completed, live⟩ := completes owns
    have terminal : batchSettlementOwnsTerminal settled .succeeded =
        true := by
      simp [batchSettlementOwnsTerminal, recorded, owns, completed, live,
        claims.supported, claims.outcome, claims.uncancelled]
    rw [terminal]
    refine Leaves.bind (leaves_fact_dispatchBatchTerminal completed live) ?_
    rintro _ _ rfl
    refine Leaves.ret ?_
    simp [memberFacts, workflowFact_batch_carries carries]

theorem not_handlerRan_of_unnoticed (unnoticed : nodeEffects log = []) : ¬HandlerRan log := by
  rintro ⟨env, ran⟩
  simp [unnoticed] at ran

/-- Neither handler nor fact. -/
theorem ensures_nothing {ρ : Type} {program : Engine ρ} (unnoticed : Unnoticed program)
    (factless : Factless program) :
    Ensures environment program fun log _ =>
      nodeEffects log = [] ∧ facts log = [] :=
  Ensures.and (Leaves.of_unseen unnoticed) (Leaves.of_unseen factless)

theorem ensures_fact_executeBatchJob
    (builtin : r.store = kind.methods) (succeeds : Succeeds surroundings d)
    (claims : ClaimsMember surroundings r d receipt) (carries : d.Carries env) :
    Ensures surroundings (executeBatchJob r d.context env) fun log _ => HandlerRan log ->
        facts log = memberFacts d.executed receipt.aggregateCompleted := by
  have progress : Aside (batchProgressCallback env.batchID) :=
    Uses.bind (uses_ask rfl) fun _ => trivial
  have started := stored_markBatchJobStarted builtin env.batchID env.jobID
  refine Ensures.bind (ensures_nothing progress.unnoticed progress.factless) ?_
  rintro first snapshot ⟨unnoticed, nothing⟩
  refine Ensures.bind (ensures_nothing started.unnoticed started.factless) ?_
  rintro second refused ⟨unnoticedLater, nothingLater⟩
  cases refused with
  | some error =>
    refine Ensures.ret fun ran => ?_
    refine absurd ran (not_handlerRan_of_unnoticed ?_)
    simp [unnoticed, unnoticedLater]
  | none =>
    suffices finishes : Leaves Op.fact surroundings _ fun seen _ =>
        seen = memberFacts d.executed receipt.aggregateCompleted from
      Ensures.weaken finishes fun third _ reported _ => by
        rw [facts_append, facts_append, nothing, nothingLater]
        exact reported
    refine Leaves.bind (succeeds.leaves_attempt carries) ?_
    rintro _ outcome ⟨rfl, executed, succeeded⟩
    simp only [List.nil_append, succeeded, classifyAttempt_none]
    exact leaves_fact_succeedBatchDelivery builtin claims carries executed

/-- A batch recovery starts no handler, and registers nothing when it leaves
the delivery to its handler. -/
theorem ensures_fact_recoverCommittedBatchTransition (passive : r.store.Passive)
    (recovered : recoveredDeliveryProvenance context = some provenance) :
    Ensures environment (recoverCommittedBatchTransition r context env)
      fun log result => ¬HandlerRan log ∧ (result = none -> facts log = []) := by
  unfold recoverCommittedBatchTransition
  simp only [recovered]
  have read := passive.getBatch env.batchID
  refine Ensures.bind (ensures_nothing read.unnoticed read.factless) ?_
  rintro first answer ⟨unnoticed, nothing⟩
  have silent : ∀ result : Option (Option GoError),
      Ensures environment (.ret result) fun after final => ¬HandlerRan (first ++ after) ∧
      (final = none -> facts (first ++ after) = []) := by
    refine fun result => Ensures.ret ?_
    rw [List.append_nil]
    exact ⟨not_handlerRan_of_unnoticed unnoticed, fun _ => nothing⟩
  split
  · exact silent _
  split
  · exact silent _
  split
  · exact silent _
  rename_i receipts capable
  have known := passive.batchTransitionReceipt receipts capable env.batchID env.jobID
  refine Ensures.bind (ensures_nothing known.unnoticed known.factless) ?_
  rintro second answer ⟨unnoticedLater, nothingLater⟩
  rcases answer with error | _ | receipt
  · refine Ensures.ret ⟨not_handlerRan_of_unnoticed ?_, by simp⟩
    simp [unnoticed, unnoticedLater]
  · refine Ensures.ret ⟨not_handlerRan_of_unnoticed ?_, fun _ => ?_⟩
    · simp [unnoticed, unnoticedLater]
    · simp [nothing, nothingLater]
  · refine Ensures.bind (Uses.ensures uses_recoverBatchReceipt) ?_
    intro third result used
    refine Ensures.ret ⟨?_, by simp⟩
    rintro ⟨handled, ran⟩
    refine not_handlerRan_of_recoveredOp used ⟨handled, ?_⟩
    simpa [unnoticed, unnoticedLater] using ran

/-- The delivery that claimed the success of its member reports it. -/
theorem facts_handleInternalBatchJob (builtin : r.store = kind.methods)
    (succeeds : Succeeds surroundings d) (claims : ClaimsMember surroundings r d receipt) :
    Ensures surroundings (handleInternalBatchJob r d.context d.env) fun log _ => HandlerRan log ->
        facts log = memberFacts d.executed receipt.aggregateCompleted := by
  unfold handleInternalBatchJob
  cases recovering : recoveredDeliveryProvenance d.context with
  | none => exact ensures_fact_executeBatchJob builtin succeeds claims d.carries_env
  | some provenance =>
    refine Ensures.bind (ensures_fact_recoverCommittedBatchTransition
      (builtin ▸ kind.methods_passive) recovering) ?_
    rintro before result ⟨idle, nothing⟩
    cases result with
    | some result =>
      refine Ensures.ret fun ran => ?_
      rw [List.append_nil] at ran
      exact absurd ran idle
    | none =>
      refine Ensures.weaken (ensures_fact_executeBatchJob builtin succeeds
        claims d.carries_executed) ?_
      rintro after _ reported ⟨handled, ran⟩
      rw [facts_append, nothing rfl, List.nil_append]
      refine reported ⟨handled, ?_⟩
      rw [nodeEffects_append, List.mem_append] at ran
      exact ran.resolve_left fun early => idle ⟨handled, early⟩

/-! ## The recovering delivery -/

/-- The context recovers exactly the generation and attempt of a delivery. -/
structure RecoversExactly (context : DeliveryContext) (provenance : DeliveryProvenance)
    (d : Delivery) : Prop where
  recovered : recoveredDeliveryProvenance context = some provenance
  generation : provenance.recoveredGenerationID = d.claim.deliveryID
  attempt : (applyDeliveryAttempt context d.env).attempt = d.claim.attempt

/-- A delivery changes nothing but the attempt of its message. -/
theorem applyDeliveryAttempt_eq (context : DeliveryContext) :
    applyDeliveryAttempt context env =
      { env with attempt := (applyDeliveryAttempt context env).attempt } := by
  unfold applyDeliveryAttempt
  cases context.attempt <;> rfl

namespace RecoversExactly

/-- It delivers the message as the first delivery executed it. -/
theorem delivered (exactly : RecoversExactly context provenance d) :
    applyDeliveryAttempt context d.env = d.executed := by
  have same : (applyDeliveryAttempt context d.env).attempt =
      (applyDeliveryAttempt d.context d.env).attempt := exactly.attempt
  rw [Delivery.executed, applyDeliveryAttempt_eq context, applyDeliveryAttempt_eq d.context, same]

theorem owns (exactly : RecoversExactly context provenance d)
    (valid : d.claim.valid = true) (owner : receipt.owner = d.claim) :
    transitionReceiptOwnsRecoveredFacts d.executed receipt provenance = true := by
  have named : d.claim.deliveryID ≠ "" := by
    simp only [TransitionClaim.valid, Bool.and_eq_true, bne_iff_ne, ne_eq] at valid
    tauto
  simp [transitionReceiptOwnsRecoveredFacts, exactly.generation, named, owner]
  exact ⟨rfl, rfl⟩

end RecoversExactly

/-- The outcome that an exact owner reports is the one of its message. -/
theorem env_of_recoveredStoredJobSuccess
    (recovers : recoveredStoredJobSuccess env receipt observed = .ok outcome) :
    outcome.env = env ∧ outcome.error = none := by
  unfold recoveredStoredJobSuccess at recovers
  split at recovers
  · cases recovers
  split at recovers
  · cases recovers
  · cases recovers
    exact ⟨rfl, rfl⟩

/-- What a member's recovery registers, and how it ends, when the batch was
cancelled after the member completed it and when it was not. -/
def MemberReported (env : Envelope) (completes cancelled : Bool)
    (log : List (Entry Op Op.Answer)) (final : Option GoError) : Prop :=
  if completes && cancelled then
    facts log = [] ∧ ∃ error, final = some error ∧ error.isUncommitted = true
  else facts log = memberFacts env completes

section ExactOwner

variable (exactly : RecoversExactly context provenance d) (valid : d.claim.valid = true)
  (owner : receipt.owner = d.claim) (successful : receipt.outcome = .succeeded)
include exactly valid owner successful

/-- The exact owner of a node's success reports it again. -/
theorem leaves_fact_recoverChainReceipt (shown : ShowsNode d.executed nodes receipt state)
    (completed : receipt.aggregateCompleted = decide (index + 1 = state.nodes.length)) :
    Leaves Op.fact environment
      (recoverChainReceipt context provenance d.executed state index receipt)
      fun seen _ => seen = nodeFacts d.executed receipt.aggregateCompleted := by
  have owned := OwnedBy.of_claim owner
  have owns := exactly.owns valid owner
  obtain ⟨dispatched, identified⟩ := correlated_of_valid valid
  simp only [recoverChainReceipt]
  rw [if_neg (not_not.mpr shown.belongs), shown.accepted owned]
  dsimp only
  rw [if_neg (not_not.mpr successful), if_neg (by simp [shown.agrees.uncancelled]),
    if_neg (not_not.mpr completed), if_neg (not_not.mpr owns)]
  refine Leaves.skip (uses_ask rfl) fun observed => ?_
  obtain ⟨reported, same⟩ := recoveredStoredJobSuccess_of_exact
    (shown.accepted owned) successful (exactOwner_of_owns owns) observed
  obtain ⟨executed, succeeded⟩ := env_of_recoveredStoredJobSuccess same
  rw [same]
  dsimp only
  rw [← executed] at dispatched identified
  have success : Leaves Op.fact environment (emitStoredJobOutcome context reported)
      fun seen _ => seen = [successFact reported.env] :=
    leaves_fact_emitStoredJobOutcome succeeded dispatched identified
  unfold reportRecoveredChainSuccess
  split
  · rename_i last
    refine Leaves.bind success ?_
    rintro _ _ rfl
    refine Leaves.bind (leaves_fact_emitFact rfl) ?_
    rintro _ _ rfl
    refine Leaves.ret ?_
    simp [nodeFacts, completed, last, executed]
  · rename_i inner
    refine Leaves.bind success ?_
    rintro _ _ rfl
    refine Leaves.bind (leaves_fact_emitFact rfl) ?_
    rintro _ _ rfl
    refine Leaves.weaken (Leaves.of_unseen factless_recoverCommittedChainSuccessor) ?_
    rintro _ _ rfl
    simp [nodeFacts, completed, inner, executed]

/-- The recovery of a node by its exact owner reports its success again. -/
theorem facts_recovered_node (passive : r.store.Passive) (carries : CarriesJob d.env nodes)
    (presents : PresentsNode environment r.store d.executed nodes receipt) :
    Ensures environment (handleInternalChainNode r context d.env) fun log _ =>
        facts log = nodeFacts d.executed receipt.aggregateCompleted := by
  unfold handleInternalChainNode
  simp only [exactly.recovered, exactly.delivered]
  refine Ensures.bind (ensures_recoverCommittedChain_succeeded passive presents
    exactly.recovered (OwnedBy.of_claim owner) successful
    fun state index shown completed => leaves_fact_recoverChainReceipt exactly
      valid owner successful shown completed) ?_
  rintro log _ ⟨final, rfl, ends⟩
  have carried : CarriesJob d.executed nodes := by
    obtain ⟨index, position, job⟩ := carries
    refine ⟨index, by rw [d.executed_nodeID]; exact position, ?_⟩
    rw [d.carries_executed.job]
    exact job
  obtain ⟨before, after, rfl, stored, reported⟩ := ends carried
  refine Ensures.ret ?_
  rw [List.append_nil, facts_append, facts_of_stored stored, List.nil_append]
  exact reported

/-- The exact owner of a member's success reports it again, with the completion
it owns. -/
theorem leaves_fact_recoverBatchReceipt (shown : ShowsMember d.executed receipt state) :
    Leaves Op.fact environment (recoverBatchReceipt context provenance d.executed state receipt)
      fun seen _ => seen = memberFacts d.executed receipt.aggregateCompleted := by
  have owns := exactly.owns valid owner
  obtain ⟨belongs, accepted, shape⟩ := memberReceipt_iff.mp shown.proves
  simp only [recoverBatchReceipt, belongs, not_true_eq_false, if_false,
    accepted, shape, successful, owns]
  refine Leaves.skip (uses_ask rfl) fun observed => ?_
  obtain ⟨reported, same⟩ := recoveredStoredJobSuccess_of_exact accepted
    successful (exactOwner_of_owns owns) observed
  obtain ⟨executed, _⟩ := env_of_recoveredStoredJobSuccess same
  rw [same]
  refine Leaves.bind (leaves_fact_emitCommittedBatchSuccessFacts
    d.carries_executed executed valid) ?_
  rintro _ _ rfl
  unfold reportRecoveredBatchCompletion
  cases completes : receipt.aggregateCompleted with
  | false => exact Leaves.ret (by simp)
  | true =>
    obtain ⟨completed, flag⟩ := shown.proves.completion completes
    have uncancelled : receipt.aggregateCancelled = false := by
      cases cancelled : receipt.aggregateCancelled with
      | false => rfl
      | true =>
        have failed := (shown.proves.cancellation cancelled).2
        rw [successful] at failed
        cases failed
    rw [uncancelled] at flag
    have exhausted := shown.consistent.complete completed flag.symm
    rw [if_pos (by simp [uncancelled, exhausted, completed, ← flag])]
    refine Leaves.bind (leaves_fact_emitFact rfl) ?_
    rintro _ _ rfl
    exact Leaves.ret (by simp [memberFacts])

variable (passive : r.store.Passive)
  (uncancelled : receipt.aggregateCancelled = false)
  (presents : PresentsMember environment r.store d.executed receipt
    fun state => StandsMember d.executed receipt state ∧ state.cancelled = cancelled)
include passive uncancelled presents

theorem ensures_memberReported :
    Ensures environment (recoverCommittedBatchTransition r context d.executed)
      fun log result => ∃ final, result = some final ∧
        MemberReported d.executed receipt.aggregateCompleted cancelled log final := by
  obtain ⟨receipts, capable, read⟩ := presents.receipt
  unfold recoverCommittedBatchTransition
  simp only [exactly.recovered, capable]
  refine Ensures.bind (Ensures.and (Uses.ensures (passive.getBatch _)) presents.batch) ?_
  rintro first _ ⟨stored, state, rfl, stands, flag⟩
  have checked := validateRecoveredBatchState_eq_none_iff.mpr stands.consistent
  simp only [checked]
  refine Ensures.bind (Ensures.and
    (Uses.ensures (passive.batchTransitionReceipt _ capable _ _)) read) ?_
  rintro second _ ⟨storedRead, rfl⟩
  have nothing : facts first = [] := facts_of_stored stored
  have nothingRead : facts second = [] := facts_of_stored storedRead
  unfold MemberReported
  cases withheld : receipt.aggregateCompleted && cancelled with
  | false =>
    have shown := stands.shows fun owns => by
      rw [owns, Bool.true_and] at withheld
      rw [uncancelled, flag, withheld]
    refine Ensures.bind (leaves_fact_recoverBatchReceipt exactly valid owner successful shown) ?_
    intro third final reported
    refine Ensures.ret ⟨final, rfl, ?_⟩
    rw [List.append_nil, facts_append, facts_append, nothing, nothingRead]
    exact reported
  | true =>
    simp only [Bool.and_eq_true] at withheld
    have unproven : ¬MemberReceipt d.executed state receipt := by
      intro proves
      have same := (proves.completion withheld.1).2
      rw [uncancelled, flag, withheld.2] at same
      cases same
    obtain ⟨error, refused⟩ := recoverBatchReceipt_refuses context provenance unproven
    simp only [refused]
    refine Ensures.ret ⟨_, rfl, ?_, _, rfl, ?_⟩
    · simp [nothing, nothingRead]
    · exact isUncommitted_uncommittedMutationError

/-- The recovery of a member by its exact owner reports its success again,
unless the batch was cancelled after the member completed it. -/
theorem facts_recovered_member :
    Ensures environment (handleInternalBatchJob r context d.env)
      fun log final => MemberReported d.executed receipt.aggregateCompleted
        cancelled log final := by
  unfold handleInternalBatchJob
  simp only [exactly.recovered, exactly.delivered]
  refine Ensures.bind (ensures_memberReported exactly valid owner successful passive
    uncancelled presents) ?_
  rintro log _ ⟨final, rfl, reported⟩
  refine Ensures.ret ?_
  rw [List.append_nil]
  exact reported

end ExactOwner

/-! ## The memory store -/

/-- The call that claims the success of the node of a delivery. -/
abbrev Delivery.advanceCall (d : Delivery) : MemoryCall :=
  .advanceChainOutcome d.env.chainID d.env.nodeID d.claim

/-- The call that claims the success of the member of a delivery. -/
abbrev Delivery.settleCall (d : Delivery) : MemoryCall :=
  .settleBatchOutcome d.env.batchID d.env.jobID .succeeded d.claim

/-- The memory store answers the call, and the call makes the transition. -/
structure ClaimedBy (surroundings : Environment Op Op.Answer) (call : MemoryCall)
    (store : MemoryStore) (now : Time) : Prop where
  answered : ∀ answer, surroundings.answers (.memory call) answer -> answer = (call.run store now).1
  claimed : call.claimedNow (call.run store now).1 = true

section Memory

variable {store : MemoryStore} (stand : store.ReceiptsStand)
  (builtin : r.store = MemoryStore.methods) (valid : d.claim.valid = true)

include stand builtin valid

/-- A success that the memory store claims. -/
theorem claimsNode_of_memory (claims : ClaimedBy surroundings d.advanceCall store now) :
    ∃ receipt chain after, store.chains d.env.chainID = some chain ∧
      (d.advanceCall.run store now).2.chains d.env.chainID = some after ∧
      after.state.nodes = chain.state.nodes ∧
      (d.advanceCall.run store now).2.transitionReceipt .chain d.env.chainID
        d.env.nodeID = some receipt ∧
      ClaimsNode surroundings r d receipt := by
  obtain ⟨answered, claimed⟩ := claims
  simp only [MemoryCall.run] at answered claimed ⊢
  cases stored : store.chains d.env.chainID with
  | none => simp [MemoryCall.claimedNow, MemoryStore.advanceChainOutcome, stored] at claimed
  | some chain =>
    have ordered := (stand.chains _ _ stored).ordered
    have answer := MemoryStore.advanceChainOutcome_cases stored ordered d.env.nodeID d.claim now
    generalize store.advanceChainOutcome d.env.chainID d.env.nodeID d.claim
      now = result at answer answered claimed ⊢
    cases answer with
    | refused | foreign | replayed => cases claimed
    | claimed current matching =>
      have recorded : (store.claimSuccess chain d.env.chainID d.env.nodeID
          d.claim now).2.transitionReceipt .chain d.env.chainID
          d.env.nodeID = some (claimedReceipt .chain
            d.env.chainID chain.state.dispatchID chain.state.createdAt
            d.env.nodeID .succeeded d.claim
            (chain.state.advance now).completed false now) := by
        rw [MemoryStore.claimSuccess, MemoryStore.transitionReceipt_recordTransitionReceipt,
          if_pos ⟨valid, rfl, rfl, rfl⟩]
      refine ⟨_, chain,
        { state := chain.state.advance now
          completedNode :=
            Function.update chain.completedNode d.env.nodeID true },
        rfl, ?_, rfl, recorded, valid, rfl, rfl, ?_⟩
      · rw [MemoryStore.claimSuccess_chains, Function.update_self]
      unfold advanceChainNode
      rw [builtin]
      refine Ensures.perform fun given allowed => ?_
      rw [answered given allowed]
      refine ⟨_, rfl, rfl, ?_⟩
      exact .of_advance ordered current rfl rfl rfl

/-- A settlement that the memory store claims. -/
theorem claimsMember_of_memory (claims : ClaimedBy surroundings d.settleCall store now) :
    ∃ receipt batch after, store.batch d.env.batchID = some batch ∧
      (d.settleCall.run store now).2.batch d.env.batchID = some after ∧
      receipt.aggregateCompleted = (!batch.state.completed && after.state.completed) ∧
      (d.settleCall.run store now).2.transitionReceipt .batch d.env.batchID
        d.env.jobID = some receipt ∧
      ClaimsMember surroundings r d receipt := by
  obtain ⟨answered, claimed⟩ := claims
  simp only [MemoryCall.run] at answered claimed ⊢
  cases stored : store.batch d.env.batchID with
  | none =>
    unfold MemoryStore.settleBatchOutcome at claimed
    split at claimed
    · cases claimed
    · rw [stored] at claimed
      cases claimed
  | some batch =>
    have answer := MemoryStore.settleBatchOutcome_cases stored d.env.jobID .succeeded d.claim now
    generalize store.settleBatchOutcome d.env.batchID d.env.jobID .succeeded
      d.claim now = result at answer answered claimed ⊢
    cases answer with
    | refused | foreign | replayed => cases claimed
    | claimed status supported found unsettled matching =>
      let after := MemoryStore.settledMember batch d.env.jobID status false now
      have recorded : (store.claimSettlement batch d.env.batchID
          d.env.jobID status .succeeded d.claim now).2.transitionReceipt
          .batch d.env.batchID d.env.jobID = some (claimedReceipt .batch d.env.batchID
              batch.state.dispatchID batch.state.createdAt d.env.jobID
              .succeeded d.claim
              (MemoryStore.crossesTerminal batch.state after.state)
              (MemoryStore.crossesTerminal batch.state after.state &&
                after.state.cancelled) now) := by
        rw [MemoryStore.claimSettlement, MemoryStore.transitionReceipt_recordTransitionReceipt,
          if_pos ⟨valid, rfl, rfl, rfl⟩]
        rfl
      -- Only a batch that was still running is completed by a success.
      have live : MemoryStore.crossesTerminal batch.state after.state =
          true -> after.state.cancelled = false := by
        intro crosses
        simp only [MemoryStore.crossesTerminal, Bool.and_eq_true, Bool.not_eq_true'] at crosses
        obtain ⟨_, cancelRan, consistent⟩ := stand.batches _ _ stored
        cases flagged : batch.state.cancelled with
        | false => simp [after, MemoryStore.settledMember, MemoryStore.settledState, flagged]
        | true =>
          have ended := consistent.completed_iff.mpr (.inr flagged)
          rw [crosses.1] at ended
          cases ended
      refine ⟨_, batch, after, rfl, ?_, rfl, recorded, valid, rfl, rfl, rfl, ?_, ?_⟩
      · rw [MemoryStore.claimSettlement_batch, Function.update_self]
        rfl
      · cases crosses : MemoryStore.crossesTerminal batch.state after.state with
        | false => simp [claimedReceipt]
        | true => simp [claimedReceipt, live crosses]
      · unfold settleBatchJob
        rw [builtin]
        refine Ensures.perform fun given allowed => ?_
        rw [answered given allowed]
        refine ⟨_, rfl, rfl, rfl, ?_, fun crosses => ⟨?_, live crosses⟩⟩
        · simp only [MemoryStore.claimSettlement,
            MemoryStore.recordTransitionReceipt, valid, if_true]
          rfl
        · simp only [claimedReceipt,
            MemoryStore.crossesTerminal, Bool.and_eq_true] at crosses
          exact crosses.2

end Memory

end Programs

end JobQueue.Workflow
