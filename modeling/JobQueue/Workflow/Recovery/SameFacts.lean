import JobQueue.Workflow.Recovery.Facts
import JobQueue.Workflow.Runs.ChainOrder

/-!
# Recovered facts are the same facts

The facts of the claiming delivery and of its recoveries are compared, in every
store that answers a claim as its receipt tells. The memory store always does,
the SQL store when the answer of its commit arrives. The commit may also take
effect without an answer, and what the delivery reads afterwards may tell less
than its receipt.
-/

namespace JobQueue.Workflow

open Interleaving

/-- Whatever the first program registered once its handler ran, every run of
the second registers again. -/
def Repeats (surroundings environment : Environment Op Op.Answer)
    (first again : Engine (Option GoError)) : Prop :=
  (∃ log final, Logs environment again log final) ∧ ∀ original result,
    Logs surroundings first original result -> HandlerRan original -> ∀ log final,
    Logs environment again log final -> facts log = facts original

/-- The program registers no positive fact and asks to be delivered again. -/
def Withholds (environment : Environment Op Op.Answer) (program : Engine (Option GoError)) : Prop :=
  Ensures environment program fun log final => facts log = [] ∧
    ∃ error, final = some error ∧ error.isUncommitted = true

/-- Two programs that register the same list repeat each other. -/
theorem repeats_of_ensures (registers : Ensures surroundings first fun log _ =>
      HandlerRan log -> facts log = expected)
    (reports : Ensures environment again fun log _ => facts log = expected) :
    Repeats surroundings environment first again := by
  refine ⟨Logs.exists_run _ _, ?_⟩
  intro original result runs ran log final recovers
  rw [reports log final recovers, registers original result runs ran]

/-! ## The SQL store -/

/-- The SQL store reads a chain that waits for the node of the delivery, and the
answer of the commit that advances it arrives. -/
inductive CommitsNode (surroundings : Environment Op Op.Answer) (d : Delivery) (final : Database) :
    Prop
  | intro (db : Database) (now : Time) (state : ChainState) (ordered : state.Ordered)
      (current : state.IsCurrent d.env.nodeID)
      (matching : dispatchMismatch state.dispatchID d.claim.dispatchID = false)
      (read : ∀ answer, surroundings.answers (.sql (.selectChain d.env.chainID)) answer ->
        answer = (.ok (some state) : Except GoError _))
      (committed : db.advanceChainBody d.env.chainID d.env.nodeID state d.claim now =
        .committed result final)
      (answered : ∀ answer, surroundings.answers
        (.sql (.advanceChain d.env.chainID d.env.nodeID state d.claim)) answer ->
        answer = TxAnswer.finished result)

/-- The answer of the commit that settles the member of the delivery arrives at
the SQL store. -/
inductive CommitsMember (surroundings : Environment Op Op.Answer) (d : Delivery)
    (row : Database.SettlementRow) : Prop
  | intro (db : Database) (now : Time)
      (ended : ∀ batch, db.batches d.env.batchID = some batch -> batch.cancelled = true ->
        batch.completed = true)
      (committed : db.settleBatchBody d.env.batchID d.env.jobID false d.claim now =
        .committed row final) (claimed : row.claimed = true)
      (answered : ∀ answer, surroundings.answers
        (.sql (.settleBatch d.env.batchID d.env.jobID false d.claim)) answer ->
        answer = TxAnswer.finished row)

section Sql

variable {r : Runtime} {d : Delivery} (builtin : r.store = SqlStore.methods)
  (valid : d.claim.valid = true)

include builtin valid

/-- A success that the SQL store claims. -/
theorem claimsNode_of_sql (commits : CommitsNode surroundings d final)
    (found : KeyedList.find ⟨.chain, d.env.chainID, d.env.nodeID⟩
      final.transitionReceipts = some receipt) :
    ClaimsNode surroundings r d receipt := by
  obtain ⟨db, now, state, ordered, current, matching, read, committed, answered⟩ := commits
  unfold Database.advanceChainBody at committed
  split at committed
  · cases committed
  dsimp only at committed
  split at committed
  · cases committed
  rename_i inserted
  cases committed
  obtain ⟨row, rfl, agrees, stored⟩ := Database.insertTransitionReceipt_valid valid inserted
  cases found.symm.trans stored
  refine ⟨valid, by rw [agrees]; rfl, by rw [agrees]; rfl, ?_⟩
  have owns : receipt.aggregateCompleted = (state.advance now).completed := by rw [agrees]; rfl
  have ⟨running, index, position, here⟩ := current
  have reads : Ensures surroundings (SqlStore.getChain d.env.chainID) fun _ answer =>
      answer = .ok state := by
    refine Ensures.bind (Ensures.perform read) ?_
    rintro _ _ rfl
    exact Ensures.ret rfl
  unfold advanceChainNode
  rw [builtin]
  refine Ensures.bind reads ?_
  rintro _ _ rfl
  dsimp only
  rw [SqlStore.advanceDispositions,
    ordered.chainNodeSuccessDisposition_eq position (Int.le_of_eq here),
    ordered.chainNodeAdvanceDisposition_eq position (Int.le_of_eq here)]
  simp only [running, here, matching]
  refine Ensures.bind (Ensures.perform answered) ?_
  rintro _ _ rfl
  dsimp only
  split
  · rename_i ended
    exact Ensures.ret ⟨_, rfl, rfl, .of_advance ordered current ended.symm rfl owns⟩
  · rename_i unended
    exact Ensures.ret ⟨_, rfl, rfl, .of_advance ordered current
      (Bool.eq_false_iff.mpr unended).symm rfl owns⟩

/-- A settlement that the SQL store claims. -/
theorem claimsMember_of_sql (commits : CommitsMember surroundings d row)
    (found : row.receipt = some receipt) : ClaimsMember surroundings r d receipt := by
  obtain ⟨db, now, ended, committed, claimed, answered⟩ := commits
  unfold Database.settleBatchBody at committed
  split at committed
  · cases committed
  rename_i initial stored
  split at committed
  · cases committed
  dsimp only at committed
  split at committed
  · split at committed
    · cases committed
    · split at committed <;> cases committed
      cases claimed
  split at committed
  · cases committed
  split at committed
  · cases committed
  rename_i inserted
  cases committed
  obtain ⟨_, rfl, owner, outcome, supported, completed, cancelled⟩ :=
    Database.insertSettlementReceipts_valid valid inserted
  cases found
  -- Only a batch that was still running is completed by a success.
  have live : receipt.aggregateCompleted = true ->
      (Database.settledRow initial false now).cancelled = false := by
    intro owns
    rw [completed, Bool.and_eq_true, Bool.not_eq_true'] at owns
    cases flagged : initial.cancelled with
    | false => simp [Database.settledRow, flagged]
    | true =>
      rw [ended initial stored flagged] at owns
      cases owns.1
  refine ⟨valid, owner, outcome, supported, ?_, ?_⟩
  · rw [cancelled]
    cases owns : receipt.aggregateCompleted with
    | false => rfl
    | true => rw [live owns]; rfl
  unfold settleBatchJob
  rw [builtin]
  refine Ensures.bind (Ensures.perform answered) ?_
  rintro _ _ rfl
  refine Ensures.ret ⟨_, rfl, rfl, rfl, rfl, fun owns => ⟨?_, live owns⟩⟩
  rw [completed, Bool.and_eq_true] at owns
  exact owns.2

end Sql

/-! ## The comparison -/

/-- Surroundings without callbacks in which a store does not change, handlers
succeed and every enqueue is accepted. -/
noncomputable def calmly (store : MemoryStore) (db : Database := .empty) :
    (operation : Op) -> operation.Answer
  | .sql statement => (statement.run db 0 none).1
  | .registry call => (call.run CallbackRegistry.empty).1
  | .busDispatch _ _ => (none : Option GoError)
  | .markDeliveryApplicationStateCommitted => ()
  | operation => servedBy store operation

/-- The recovering context is the exact owner of a first delivery. -/
theorem recoversExactly_first :
    RecoversExactly recoveringContext
      { generationID := "next", recoveredGenerationID := "generation",
        recovered := true } (firstDelivery kind env) :=
  ⟨rfl, rfl, rfl⟩

/-- The first node of a chain commits its success, but the answer is lost. Before
the delivery looks for its receipt, a copy of its message and then the second
node complete the chain. The delivery is recovered at last. -/
def lostAdvance : List (Action Choice Move) :=
  twoNodeDispatch ++ [.external (.duplicate 0), .external (.duplicate 0),
    .external (.deliver 0 { provenance := some { generationID := "generation" } })] ++
    Broker.perform 1
      [.plain, .suffix "7", .plain, .registered true, .result none, .plain, .plain,
        .fault (.lost (.text "connection reset") true)] ++
  .external (.deliver 0 {}) :: Broker.perform 2 [.plain, .suffix "8", .plain, .registered true,
      .result none, .plain, .plain, .plain, .plain, .suffix "9", .enqueue .accepted, .plain] ++
  .external (.deliver 0 {}) :: Broker.perform 3 [.plain, .suffix "10", .plain, .registered true,
    .result none, .plain, .plain, .plain, .plain, .plain, .plain, .plain, .plain, .plain,
    .plain] ++ Broker.perform 1 [.plain, .plain, .plain, .plain, .plain] ++
  .external (.deliver 0 recoveringContext) :: Broker.perform 4
      [.plain, .plain, .plain, .plain, .plain, .plain, .plain, .plain, .plain]

/-- The positive facts that a program reported. -/
def World.reported (w : World) (label : Nat) : List EventKind :=
  ((w.facts.filter fun fact => fact.1 == label &&
    eventWaitsForDeliverySettlement fact.2.kind).map (·.2.kind)).reverse

end JobQueue.Workflow
