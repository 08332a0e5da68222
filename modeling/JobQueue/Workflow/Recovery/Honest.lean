import JobQueue.Workflow.Conformance.BatchDelivery
import JobQueue.Workflow.Recovery.Batch
import JobQueue.Workflow.Recovery.NodeEffects
import JobQueue.Workflow.Store.MemoryReceipts

/-!
# Honest recovery never jams

A delivery that commits a transition over the memory store with a complete
claim leaves a receipt that names its own envelope. The receipt outlives every
call that retains the workflow, and it passes every check a recovered delivery
of the same envelope makes. So the delivery is settled without its handler,
and only the enqueue of the next node can still fail.
-/

namespace JobQueue.Workflow

open Interleaving

/-! ## What a delivery commits -/

variable (d : Delivery)

/-- Phases of the delivery of a chain node. -/
def Phase.ofNode : Phase -> Prop
  | .node other _ => other = d
  | .nodeRan other _ => other = d
  | .nodeLost other => other = d
  | .nodeFailed other => other = d
  | .nodeReported other => other = d
  | .nodeAdvanced other _ => other = d
  | .nodePosting other _ _ => other = d
  | .nodePosted other _ => other = d
  | _ => False

/-- Phases of the delivery of a batch member. -/
def Phase.ofMember : Phase -> Prop
  | .member other _ => other = d
  | .memberRan other _ => other = d
  | .memberUnsure other _ _ => other = d
  | .settled other _ _ _ => other = d
  | _ => False

/-- A node delivery claims transitions of its own node only. -/
def Delivery.NodeOp : Op -> Prop
  | .memory (.advanceChainOutcome chainID nodeID claim) =>
    chainID = d.env.chainID ∧ nodeID = d.env.nodeID ∧ claim = d.claim
  | .memory (.failChainOutcome chainID nodeID _ claim) =>
    chainID = d.env.chainID ∧ nodeID = d.env.nodeID ∧ claim = d.claim
  | .memory (.settleBatchOutcome _ _ _ _) => False
  | _ => True

/-- A member delivery claims the settlement of its own member only. -/
def Delivery.MemberOp : Op -> Prop
  | .memory (.advanceChainOutcome _ _ _) => False
  | .memory (.failChainOutcome _ _ _ _) => False
  | .memory (.settleBatchOutcome batchID jobID _ claim) =>
    batchID = d.env.batchID ∧ jobID = d.env.jobID ∧ claim = d.claim
  | _ => True

variable {operation : Op}

theorem Delivery.nodeOp_of_quiet (quiet : operation.quiet = true) : d.NodeOp operation := by
  unfold NodeOp
  split
  · cases quiet
  · cases quiet
  · cases quiet
  · exact trivial

theorem Delivery.memberOp_of_quiet (quiet : operation.quiet = true) : d.MemberOp operation := by
  unfold MemberOp
  split
  · cases quiet
  · cases quiet
  · cases quiet
  · exact trivial

variable {d}

theorem EngineMoves.ofNode (inside : before.ofNode d)
    (move : EngineMoves before operation answer after) :
    after.ofNode d ∧ d.NodeOp operation := by
  cases move with
  | quiet _ _ _ quiet => exact ⟨inside, d.nodeOp_of_quiet quiet⟩
  | direct => cases inside
  | chainDispatch move => cases move <;> cases inside
  | sqlNode move => cases move <;> cases inside
  | batchDispatch move => cases move <;> cases inside
  | member move => cases move <;> cases inside
  | node move =>
    cases move <;> cases inside <;> first
      | exact ⟨rfl, trivial⟩
      | exact ⟨rfl, rfl, rfl, rfl⟩

theorem EngineMoves.ofMember (inside : before.ofMember d)
    (move : EngineMoves before operation answer after) :
    after.ofMember d ∧ d.MemberOp operation := by
  cases move with
  | quiet _ _ _ quiet => exact ⟨inside, d.memberOp_of_quiet quiet⟩
  | direct => cases inside
  | chainDispatch move => cases move <;> cases inside
  | sqlNode move => cases move <;> cases inside
  | batchDispatch move => cases move <;> cases inside
  | node move => cases move <;> cases inside
  | member move =>
    cases move <;> cases inside <;> first
      | exact ⟨rfl, trivial⟩
      | exact ⟨rfl, rfl, rfl, rfl⟩

/-- The claim that a call makes. -/
def MemoryCall.claim : MemoryCall -> TransitionClaim
  | .advanceChainOutcome _ _ claim => claim
  | .failChainOutcome _ _ _ claim => claim
  | .settleBatchOutcome _ _ _ claim => claim
  | _ => {}

/-- The answer says that the call itself made the transition. -/
def MemoryCall.claimedNow : (call : MemoryCall) -> call.Answer -> Bool
  | .advanceChainOutcome _ _ _, .ok result => result.claimedNow
  | .failChainOutcome _ _ _ _, .ok result => result.claimedNow
  | .settleBatchOutcome _ _ _ _, .ok result => result.claimedNow
  | _, _ => false

/-- A run of the handling committed a transition with a complete claim, and the
memory store went from one state to the other. -/
def Commits (handling : Engine (Option GoError)) (before after : MemoryStore) : Prop :=
  ∃ surroundings log result call now, Logs surroundings handling log result ∧ ⟨.memory call,
      (call.run before now).1⟩ ∈ log ∧ call.claimedNow (call.run before now).1 = true ∧
      call.claim.valid = true ∧ after = (call.run before now).2

/-- A claimed transition of a node leaves a receipt of its owner. -/
theorem recorded_of_nodeOp (agree : store.ReceiptsAgree) (own : d.NodeOp (.memory call))
    (claimed : call.claimedNow (call.run store now).1 = true) (valid : call.claim.valid = true) :
    (call.run store now).2.ReceiptsAgree ∧ ∃ receipt,
      (call.run store now).2.transitionReceipt .chain d.env.chainID d.env.nodeID = some receipt ∧
      receipt.owner = d.claim := by
  cases call with
  | advanceChainOutcome chainID nodeID claim =>
    obtain ⟨rfl, rfl, rfl⟩ := own
    refine ⟨agree.apply (.chain (.advanceChainOutcome _ _ _ now)) trivial, ?_⟩
    simp only [MemoryCall.run] at claimed ⊢
    cases stored : store.chains d.env.chainID with
    | none => simp [MemoryCall.claimedNow, MemoryStore.advanceChainOutcome, stored] at claimed
    | some chain =>
      have answer := MemoryStore.advanceChainOutcome_cases stored
        (agree.chains _ _ stored).ordered d.env.nodeID d.claim now
      generalize store.advanceChainOutcome d.env.chainID d.env.nodeID
        d.claim now = result at answer claimed ⊢
      cases answer with
      | refused | foreign | replayed => cases claimed
      | claimed =>
        rw [MemoryStore.claimSuccess, MemoryStore.transitionReceipt_recordTransitionReceipt,
          if_pos ⟨valid, rfl, rfl, rfl⟩]
        exact ⟨_, rfl, rfl⟩
  | failChainOutcome chainID nodeID cause claim =>
    obtain ⟨rfl, rfl, rfl⟩ := own
    refine ⟨agree.apply (.chain (.failChainOutcome _ _ cause _ now)) trivial, ?_⟩
    simp only [MemoryCall.run] at claimed ⊢
    cases stored : store.chains d.env.chainID with
    | none => simp [MemoryCall.claimedNow, MemoryStore.failChainOutcome, stored] at claimed
    | some chain =>
      have answer := MemoryStore.failChainOutcome_cases stored
        (agree.chains _ _ stored).ordered d.env.nodeID cause d.claim now
      generalize store.failChainOutcome d.env.chainID d.env.nodeID cause
        d.claim now = result at answer claimed ⊢
      cases answer with
      | refused | foreign | completed | replayed => cases claimed
      | claimed =>
        rw [MemoryStore.claimFailure, MemoryStore.transitionReceipt_recordTransitionReceipt,
          if_pos ⟨valid, rfl, rfl, rfl⟩]
        exact ⟨_, rfl, rfl⟩
  | settleBatchOutcome => cases own
  | _ => cases claimed

/-- A claimed settlement leaves a receipt of its owner. -/
theorem recorded_of_memberOp (agree : store.ReceiptsAgree) (own : d.MemberOp (.memory call))
    (claimed : call.claimedNow (call.run store now).1 = true) (valid : call.claim.valid = true) :
    (call.run store now).2.ReceiptsAgree ∧ ∃ receipt,
      (call.run store now).2.transitionReceipt .batch d.env.batchID d.env.jobID = some receipt ∧
      receipt.owner = d.claim := by
  cases call with
  | settleBatchOutcome batchID jobID outcome claim =>
    obtain ⟨rfl, rfl, rfl⟩ := own
    refine ⟨agree.apply (.batch (.settleBatchOutcome _ _ outcome _ now)) trivial, ?_⟩
    simp only [MemoryCall.run] at claimed ⊢
    cases stored : store.batch d.env.batchID with
    | none =>
      unfold MemoryStore.settleBatchOutcome at claimed
      split at claimed
      · cases claimed
      · rw [stored] at claimed
        cases claimed
    | some batch =>
      have answer := MemoryStore.settleBatchOutcome_cases stored d.env.jobID outcome d.claim now
      generalize store.settleBatchOutcome d.env.batchID d.env.jobID
        outcome d.claim now = result at answer claimed ⊢
      cases answer with
      | refused | foreign | replayed => cases claimed
      | claimed =>
        rw [MemoryStore.claimSettlement, MemoryStore.transitionReceipt_recordTransitionReceipt,
          if_pos ⟨valid, rfl, rfl, rfl⟩]
        exact ⟨_, rfl, rfl⟩
  | advanceChainOutcome | failChainOutcome => cases own
  | _ => cases claimed

/-! ## Recovering a node -/

/-- Every answer of the memory store is one it gives after calls that retain
the workflow. Two answers need not be given by the same store. -/
def ServesLater (environment : Environment Op Op.Answer) (kind : WorkflowKind)
    (workflowID : String) (store : MemoryStore) : Prop :=
  ∀ call answer, environment.answers (.memory call) answer -> ∃ calls now,
    store.Retains kind workflowID calls ∧ answer = (call.run (store.runCalls calls) now).1

/-- Every answer of the memory store is one it gives while it keeps the
workflow. -/
def ServesKept (environment : Environment Op Op.Answer) (kind : WorkflowKind)
    (workflowID : String) (store : MemoryStore) : Prop :=
  ∀ call answer, environment.answers (.memory call) answer -> ∃ calls now,
    store.Keeps kind workflowID calls ∧ answer = (call.run (store.runCalls calls) now).1

theorem ServesLater.kept (serves : ServesLater environment kind workflowID store) :
    ServesKept environment kind workflowID store := by
  intro call answer allowed
  obtain ⟨calls, now, retains, same⟩ := serves call answer allowed
  exact ⟨calls, now, MemoryStore.keeps_of_retains retains, same⟩

/-- The receipt was claimed for the message of the envelope. -/
structure OwnedBy (env : Envelope) (receipt : TransitionReceipt) : Prop where
  dispatchID : receipt.owner.dispatchID = env.dispatchID
  jobID : receipt.owner.jobID = env.jobID
  jobFingerprint : receipt.owner.jobFingerprint = storedJobReceiptFingerprint env.job

/-- A receipt with the claim of a delivery was claimed for its message. -/
theorem OwnedBy.of_claim (owner : receipt.owner = d.claim) : OwnedBy d.executed receipt := by
  have carries := d.carries_executed
  constructor
  · rw [owner, carries.dispatchID]
    rfl
  · rw [owner, carries.jobID]
    rfl
  · rw [owner, carries.job]
    rfl

/-- The envelope carries the job that is stored for its node. -/
def CarriesJob (env : Envelope) (nodes : List ChainNode) : Prop :=
  ∃ index, chainNodePosition nodes env.nodeID = some index ∧
    (nodes[index]?).map (·.job) = some env.job

/-- The next node was refused by the queue, and the delivery reports it. -/
def SuccessorRefused (log : List (Entry Op Op.Answer)) (final : Option GoError) : Prop :=
  ∃ message error, (⟨.busDispatch .chainNode message, some error⟩ : Entry Op Op.Answer) ∈ log ∧
      final = some (uncommittedMutationError "dispatch next chain node" error)

theorem SuccessorRefused.append_left (refused : SuccessorRefused log final) :
    SuccessorRefused (earlier ++ log) final := by
  obtain ⟨message, error, logged, same⟩ := refused
  exact ⟨message, error, List.mem_append_right earlier logged, same⟩

/-- Only the refusal of the next node leaves the delivery unsettled. -/
def Settles (log : List (Entry Op Op.Answer)) (final : Option GoError) : Prop :=
  final.any GoError.isUncommitted = true -> SuccessorRefused log final

theorem Settles.none : Settles log none :=
  fun uncommitted => by cases uncommitted

theorem Settles.append_left (settles : Settles log final) (earlier : List (Entry Op Op.Answer)) :
    Settles (earlier ++ log) final :=
  fun uncommitted => (settles uncommitted).append_left

/-- The stored chain shows the transition of a receipt. -/
structure ShowsNode (env : Envelope) (nodes : List ChainNode) (receipt : TransitionReceipt)
    (state : ChainState) : Prop where
  chainID : state.chainID = env.chainID
  nodes : state.nodes = nodes
  ordered : state.Ordered
  agrees : NodeReceipt state env.chainID env.nodeID receipt

@[simp] theorem isUncommitted_committedChainFailure (state : ChainState) :
    (committedChainFailure env state).isUncommitted = false := by
  unfold committedChainFailure
  split <;> rfl

section Node

variable {env : Envelope}

theorem ensures_dispatchChainSuccessor :
    Ensures environment (dispatchChainSuccessor env (some node)) Settles := by
  refine Ensures.bind Ensures.logged ?_
  rintro _ id rfl
  refine Ensures.bind Ensures.logged ?_
  rintro _ result rfl
  split
  · exact Ensures.bind (Ensures.shown _) fun _ _ _ =>
      Ensures.ret Settles.none
  cases result with
  | none => exact Ensures.ret Settles.none
  | some error =>
    exact Ensures.ret fun _ =>
      ⟨chainNodeEnvelope env.dispatchID env.chainID id node, error, by simp, rfl⟩

variable {nodes : List ChainNode}

theorem ensures_recoverCommittedChainSuccessor (ordered : state.Ordered) :
    Ensures environment (recoverCommittedChainSuccessor env state index) Settles := by
  unfold recoverCommittedChainSuccessor
  split
  · exact Ensures.ret Settles.none
  · rename_i going
    simp only [not_or, Bool.not_eq_true, not_not] at going
    have inRange := ordered.nextIndex_lt going.1
    have nonneg := ordered.nextIndex_nonneg
    rw [List.getElem?_eq_getElem (by omega)]
    exact ensures_dispatchChainSuccessor

theorem ensures_reportRecoveredChainSuccess (ordered : state.Ordered) :
    Ensures environment (reportRecoveredChainSuccess context env state index outcome) Settles := by
  unfold reportRecoveredChainSuccess
  split
  · refine Ensures.bind (Ensures.shown _) fun _ _ _ => ?_
    refine Ensures.bind (Ensures.shown _) fun _ _ _ => ?_
    exact Ensures.ret Settles.none
  · refine Ensures.bind (Ensures.shown _) fun first _ _ => ?_
    refine Ensures.bind (Ensures.shown _) fun second _ _ => ?_
    refine Ensures.weaken (ensures_recoverCommittedChainSuccessor ordered) ?_
    intro log final settles
    exact (settles.append_left second).append_left first

namespace ShowsNode

variable (shown : ShowsNode env nodes receipt state)
include shown

theorem belongs : receiptMatchesChain env state receipt = true := by
  have belongs := shown.agrees.belongs
  simp [receiptMatchesChain, belongs.workflowKind, belongs.workflowID,
    belongs.memberID, belongs.workflowDispatchID, belongs.workflowCreatedAt]

theorem accepted (owned : OwnedBy env receipt) :
    validateRecoveredTransitionReceipt env receipt requireOwnerJobID = none :=
  validateRecoveredTransitionReceipt_of_agrees shown.agrees.belongs.supported
    shown.agrees.belongs.owner owned.dispatchID owned.jobFingerprint
    owned.jobID

theorem sameDispatch (owned : OwnedBy env receipt) :
    dispatchMismatch state.dispatchID env.dispatchID = false :=
  owned.dispatchID ▸ shown.agrees.belongs.dispatchID

/-- A success receipt passes every check of the recovery. -/
theorem ensures_recoverChainReceipt
    (owned : OwnedBy env receipt) (outcome : receipt.outcome = .succeeded)
    (completed : receipt.aggregateCompleted = decide (index + 1 = state.nodes.length)) :
    Ensures environment (recoverChainReceipt context provenance env state index receipt)
      Settles := by
  simp only [recoverChainReceipt]
  rw [if_neg (not_not.mpr shown.belongs), shown.accepted owned]
  dsimp only
  rw [if_neg (not_not.mpr outcome), if_neg (by simp [shown.agrees.uncancelled]),
    if_neg (not_not.mpr completed)]
  split
  · exact ensures_recoverCommittedChainSuccessor shown.ordered
  rename_i owns
  have owner := exactOwner_of_owns (not_not.mp owns)
  refine Ensures.bind (Ensures.shown _) fun before observed _ => ?_
  obtain ⟨reported, same⟩ := recoveredStoredJobSuccess_of_exact
    (shown.accepted owned) outcome owner observed
  rw [same]
  refine Ensures.weaken (ensures_reportRecoveredChainSuccess shown.ordered) ?_
  exact fun log final settles => settles.append_left before

end ShowsNode

/-! ### Presented nodes -/

/-- Whenever it is read, the store shows the chain and the receipt of the
node. -/
structure PresentsNode (environment : Environment Op Op.Answer) (store : Store) (env : Envelope)
    (nodes : List ChainNode) (receipt : TransitionReceipt) : Prop where
  chain : Ensures environment (store.getChain env.chainID) fun _ answer =>
    ∃ state, answer = .ok state ∧ ShowsNode env nodes receipt state
  receipt : ∃ receipts, store.transitionReceiptStore = some receipts ∧ Ensures environment
      (receipts.chainTransitionReceipt env.chainID env.nodeID)
      fun _ answer => answer = .ok (some receipt)

section Presented

variable {r : Runtime} (passive : r.store.Passive)
  (presents : PresentsNode environment r.store env nodes receipt)
  (recovered : recoveredDeliveryProvenance context = some provenance) (owned : OwnedBy env receipt)

include presents recovered owned

/-- A success is passed over by the failure recovery. -/
theorem ensures_recoverCommittedChainFailure_succeeded (outcome : receipt.outcome = .succeeded) :
    Ensures environment (recoverCommittedChainFailure r context env)
      fun _ result => result = none := by
  obtain ⟨receipts, capable, _⟩ := presents.receipt
  unfold recoverCommittedChainFailure
  simp only [recovered, capable]
  refine Ensures.bind presents.chain ?_
  rintro before _ ⟨state, rfl, shown⟩
  dsimp only
  rw [if_neg (not_not.mpr shown.chainID), if_neg (by simp [shown.sameDispatch owned])]
  split
  · exact Ensures.ret rfl
  obtain ⟨index, position, transition⟩ := shown.agrees.transition
  cases transition with
  | failure failed => simp [outcome] at failed
  | success _ passed _ =>
    have waiting : (index : Int) ≤ state.nextIndex := by omega
    have different : (index : Int) ≠ state.nextIndex := by omega
    rw [position, shown.ordered.chainNodeFailureDisposition_eq position waiting]
    simp only [different, decide_false, Bool.and_false, Bool.false_eq_true,
      not_false_eq_true, if_true]
    exact Ensures.ret rfl

/-- A failure is settled as it was committed. -/
theorem ensures_recoverCommittedChainFailure_failed (outcome : receipt.outcome = .failed) :
    Ensures environment (recoverCommittedChainFailure r context env) fun _ result => ∃ final,
      result = some final ∧ (final.any GoError.isUncommitted = true -> ¬CarriesJob env nodes) := by
  obtain ⟨receipts, capable, read⟩ := presents.receipt
  unfold recoverCommittedChainFailure
  simp only [recovered, capable]
  refine Ensures.bind presents.chain ?_
  rintro before _ ⟨state, rfl, shown⟩
  dsimp only
  rw [if_neg (not_not.mpr shown.chainID), if_neg (by simp [shown.sameDispatch owned])]
  obtain ⟨index, position, transition⟩ := shown.agrees.transition
  cases transition with
  | success succeeded => simp [outcome] at succeeded
  | failure _ current failed incomplete =>
    have unfinished : state.completed = false :=
      Bool.eq_false_iff.mpr fun completed =>
        shown.ordered.not_both ⟨completed, failed⟩
    rw [if_neg (by simp [failed, unfinished]), position,
      shown.ordered.chainNodeFailureDisposition_eq position (Int.le_of_eq current)]
    simp only [failed, current, decide_true, Bool.and_self, not_true_eq_false, if_false]
    split
    · rename_i otherJob
      refine Ensures.ret ⟨_, rfl, ?_⟩
      rintro _ ⟨other, same, job⟩
      rw [← shown.nodes] at same job
      rw [position, Option.some_inj] at same
      exact otherJob (same ▸ job)
    refine Ensures.bind read ?_
    rintro middle _ rfl
    have trusted : refuseFailureReceipt env state receipt = none := by
      simp [refuseFailureReceipt, shown.belongs, outcome, incomplete,
        shown.agrees.uncancelled, shown.accepted owned]
    simp only [trusted]
    refine Ensures.ret ⟨_, rfl, ?_⟩
    simp

include passive

section Succeeded

variable (outcome : receipt.outcome = .succeeded)
  (continues : ∀ state index, ShowsNode env nodes receipt state ->
    receipt.aggregateCompleted = decide (index + 1 = state.nodes.length) ->
    Ensures environment
      (recoverChainReceipt context provenance env state index receipt)
      post)
include outcome continues

/-- The recovery of a success reads the chain and the receipt, and goes on
from the receipt. -/
theorem ensures_recoverCommittedChainSuccess_succeeded :
    Ensures environment (recoverCommittedChainSuccess r context env) fun log result => ∃ final,
      result = some final ∧ (CarriesJob env nodes -> ∃ before after,
      log = before ++ after ∧ (∀ entry ∈ before, entry.1.stored = true) ∧ post after final) := by
  obtain ⟨receipts, capable, read⟩ := presents.receipt
  unfold recoverCommittedChainSuccess
  simp only [recovered, capable]
  refine Ensures.bind (Ensures.and (Uses.ensures (passive.getChain _)) presents.chain) ?_
  rintro before _ ⟨stored, state, rfl, shown⟩
  dsimp only
  rw [if_neg (not_not.mpr shown.chainID), if_neg (by simp [shown.sameDispatch owned])]
  obtain ⟨index, position, transition⟩ := shown.agrees.transition
  cases transition with
  | failure failed => simp [outcome] at failed
  | success _ passed completed =>
    rw [position, shown.ordered.chainNodeSuccessDisposition_eq position (by omega)]
    simp only [passed, decide_true, not_true_eq_false, if_false]
    split
    · rename_i otherJob
      refine Ensures.ret ⟨_, rfl, ?_⟩
      rintro ⟨other, same, job⟩
      rw [← shown.nodes] at same job
      rw [position, Option.some_inj] at same
      exact absurd (same ▸ job) otherJob
    refine Ensures.bind (Ensures.and
      (Uses.ensures (passive.chainTransitionReceipt _ capable _ _)) read) ?_
    rintro middle _ ⟨storedRead, rfl⟩
    refine Ensures.bind (continues state index shown completed) ?_
    intro after final ends
    refine Ensures.ret ⟨final, rfl, fun _ =>
      ⟨before ++ middle, after, by simp, ?_, ends⟩⟩
    intro entry member
    exact (List.mem_append.mp member).elim (stored entry) (storedRead entry)

/-- The recovery of a node whose success is shown goes on from the receipt. -/
theorem ensures_recoverCommittedChain_succeeded :
    Ensures environment (recoverCommittedChain r context env) fun log result => ∃ final,
      result = some final ∧ (CarriesJob env nodes -> ∃ before after,
      log = before ++ after ∧ (∀ entry ∈ before, entry.1.stored = true) ∧ post after final) := by
  refine Ensures.bind (Ensures.and (Uses.ensures (stored_recoverCommittedChainFailure passive))
    (ensures_recoverCommittedChainFailure_succeeded presents recovered owned outcome)) ?_
  rintro first _ ⟨stored, rfl⟩
  refine Ensures.weaken (ensures_recoverCommittedChainSuccess_succeeded passive
    presents recovered owned outcome continues) ?_
  rintro _ _ ⟨final, rfl, ends⟩
  refine ⟨final, rfl, fun carries => ?_⟩
  obtain ⟨before, after, rfl, storedLater, holds⟩ := ends carries
  refine ⟨first ++ before, after, by simp, ?_, holds⟩
  intro entry member
  exact (List.mem_append.mp member).elim (stored entry) (storedLater entry)

end Succeeded

/-- The recovery of a node with a receipt of its own always ends the delivery,
and only the refusal of the next node leaves it unsettled. -/
theorem ensures_recoverCommittedChain_owned (shown : ShowsNode env nodes receipt state) :
    Ensures environment (recoverCommittedChain r context env) fun log result => ∃ final,
      result = some final ∧ (CarriesJob env nodes -> Settles log final) := by
  obtain ⟨_, _, transition⟩ := shown.agrees.transition
  cases transition with
  | success outcome =>
    refine Ensures.weaken (ensures_recoverCommittedChain_succeeded passive
      presents recovered owned outcome fun state index shown completed =>
        shown.ensures_recoverChainReceipt owned outcome completed) ?_
    rintro _ _ ⟨final, rfl, ends⟩
    refine ⟨final, rfl, fun carries => ?_⟩
    obtain ⟨before, after, rfl, _, settles⟩ := ends carries
    exact settles.append_left before
  | failure outcome =>
    refine Ensures.bind (ensures_recoverCommittedChainFailure_failed presents
      recovered owned outcome) ?_
    rintro before _ ⟨final, rfl, mismatch⟩
    refine Ensures.ret ⟨final, rfl, fun carries uncommitted => ?_⟩
    exact absurd carries (mismatch uncommitted)

end Presented

/-! ### The memory store -/

section Served

variable {store : MemoryStore} (stand : store.ReceiptsStand)
  (stored : store.chains env.chainID = some chain)
  (found : store.transitionReceipt .chain env.chainID env.nodeID = some receipt)

include stand stored found

/-- A chain that is kept shows its receipts. -/
theorem showsNode_of_keeps (keeps : store.Keeps .chain env.chainID calls) :
    ∃ later, (store.runCalls calls).chains env.chainID = some later ∧
      ShowsNode env chain.state.nodes receipt later.state := by
  have standLater := stand.runCalls calls
  obtain ⟨later, present, nodes⟩ := stand.nodes_runCalls stored keeps
  exact ⟨later, present, standLater.chainID _ _ present, nodes,
    (standLater.chains _ _ present).ordered,
    standLater.node (stand.transitionReceipt_runCalls found keeps) present⟩

/-- The memory store presents a receipt while it keeps the chain. -/
theorem presentsNode_of_serves (serves : ServesKept environment .chain env.chainID store) :
    PresentsNode environment MemoryStore.methods env chain.state.nodes receipt where
  chain := by
    refine Ensures.perform fun answer allowed => ?_
    obtain ⟨calls, now, keeps, rfl⟩ := serves _ _ allowed
    obtain ⟨later, present, shown⟩ := showsNode_of_keeps stand stored found keeps
    refine ⟨later.state, ?_, shown⟩
    simp [MemoryCall.run, MemoryStore.getChain, present]
  receipt := by
    refine ⟨_, rfl, Ensures.perform fun answer allowed => ?_⟩
    obtain ⟨calls, now, keeps, rfl⟩ := serves _ _ allowed
    obtain ⟨later, present, shown⟩ := showsNode_of_keeps stand stored found keeps
    have belongs := shown.agrees.belongs
    have read : (store.runCalls calls).chainTransitionReceipt env.chainID
        env.nodeID = .ok (some receipt) := by
      simp [MemoryStore.chainTransitionReceipt, present,
        stand.transitionReceipt_runCalls found keeps, validateTransitionReceiptSupport,
        belongs.workflowDispatchID, belongs.workflowCreatedAt, belongs.supported]
    exact read

end Served

end Node

/-! ## Recovering a member -/

/-- A batch whose counters count its members passes the check of recovery. -/
theorem ConsistentBatch.of_consistent
    {batch : MemoryBatch} (consistent : batch.Consistent cancelRan)
    (batchID : batch.state.batchID = env.batchID)
    (dispatchID : dispatchMismatch batch.state.dispatchID env.dispatchID = false)
    (nonempty : batch.jobs ≠ []) : ConsistentBatch env batch.state := by
  have total := consistent.total_eq
  have pending := consistent.pending_eq
  have processed := consistent.processed_eq
  have failed := consistent.failed_eq
  have positive : 0 < batch.jobs.length := List.length_pos_iff.mpr nonempty
  have split := List.length_eq_countP_add_countP
    (fun entry : String × BatchJobStatus => entry.2.done) (l := batch.jobs)
  have failures : batch.jobs.countP (fun entry => entry.2.done && entry.2.failed) ≤
        batch.jobs.countP fun entry => entry.2.done :=
    List.countP_mono_left fun entry _ both => by simp_all
  simp only [Bool.not_eq_true, Bool.decide_eq_false] at split
  refine ⟨batchID, dispatchID, by omega, by omega, by omega, by omega, by omega, by omega, ?_, ?_⟩
  · intro running exhausted
    have completed := consistent.completed_iff.mpr (.inl exhausted)
    rw [running] at completed
    cases completed
  · intro completed live
    rcases consistent.completed_iff.mp completed with exhausted | cancelled
    · exact exhausted
    · rw [live] at cancelled
      cases cancelled

/-- Only the start of a handler counts as one. -/
theorem eq_handle_of_nodeEffect (effect : operation.nodeEffect = some (.handled env)) :
    operation = .handle env := by
  unfold Op.nodeEffect at effect
  split at effect
  · cases effect
    rfl
  · split at effect <;> cases effect
  · cases effect
  · cases effect

theorem not_handlerRan_of_recoveredOp
    (used : ∀ entry ∈ log, RecoveredOp provenance env state receipt entry.1) : ¬HandlerRan log := by
  rintro ⟨started, ran⟩
  obtain ⟨⟨operation, answer⟩, member, effect⟩ := List.mem_filterMap.mp ran
  have listed := used _ member
  rw [eq_handle_of_nodeEffect effect] at listed
  cases listed with
  | stored _ asked => cases asked

theorem Justified.not_handlerRan (justified : Justified environment r provenance env log) :
    ¬HandlerRan log := by
  rintro ⟨started, ran⟩
  rcases justified with none | ⟨_, _, _, _, facts, rest, same, reports, _, enqueues⟩
  · simp [none] at ran
  · rw [same, List.mem_append] at ran
    rcases ran with ran | ran
    · obtain ⟨event, impossible⟩ := reports _ ran
      cases impossible
    · cases enqueues <;> simp at ran

/-- The stored batch shows the settlement of a receipt; it may have been
cancelled since. -/
structure StandsMember (env : Envelope) (receipt : TransitionReceipt) (state : BatchState) :
    Prop where
  consistent : ConsistentBatch env state
  agrees : ReceiptAgrees .batch env.batchID env.jobID state.dispatchID state.createdAt env receipt
  jobID : receipt.owner.jobID = env.jobID
  cancellation : receipt.aggregateCancelled = true ->
    receipt.aggregateCompleted = true ∧ receipt.outcome = .failed
  completed : receipt.aggregateCompleted = true -> state.completed = true

theorem StandsMember.of_standing {batch : MemoryBatch}
    (stands : JobReceipt batch env.batchID env.jobID receipt)
    (named : batch.state.batchID = env.batchID) (consistent : batch.Consistent cancelRan)
    (owned : OwnedBy env receipt) : StandsMember env receipt batch.state := by
  obtain ⟨status, listed, _⟩ := stands.settled
  have nonempty : batch.jobs ≠ [] := List.ne_nil_of_mem (KeyedList.mem_of_find_eq_some listed)
  have belongs := stands.belongs
  have sameDispatch : dispatchMismatch batch.state.dispatchID env.dispatchID = false :=
    owned.dispatchID ▸ belongs.dispatchID
  exact ⟨.of_consistent consistent named sameDispatch nonempty, ⟨belongs.workflowKind,
    belongs.workflowID, belongs.memberID, belongs.workflowDispatchID, belongs.workflowCreatedAt,
    belongs.supported, belongs.owner, owned.dispatchID, owned.jobFingerprint⟩, owned.jobID,
    stands.cancellation, stands.completed⟩

/-- The stored batch shows the settlement of a receipt. -/
structure ShowsMember (env : Envelope) (receipt : TransitionReceipt) (state : BatchState) :
    Prop where
  consistent : ConsistentBatch env state
  proves : MemberReceipt env state receipt

/-- A batch that carries the flag of the receipt shows its settlement. -/
theorem StandsMember.shows (stands : StandsMember env receipt state)
    (flag : receipt.aggregateCompleted = true -> receipt.aggregateCancelled = state.cancelled) :
    ShowsMember env receipt state :=
  ⟨stands.consistent, stands.agrees, stands.jobID, stands.cancellation,
    fun owned => ⟨stands.completed owned, flag owned⟩⟩

/-- Whenever it is read, the store shows a batch as described and the receipt
of the member. -/
structure PresentsMember (environment : Environment Op Op.Answer) (store : Store) (env : Envelope)
    (receipt : TransitionReceipt) (known : BatchState -> Prop) : Prop where
  batch : Ensures environment (store.getBatch env.batchID) fun _ answer =>
    ∃ state, answer = .ok state ∧ known state
  receipt : ∃ receipts, store.transitionReceiptStore = some receipts ∧ Ensures environment
      (receipts.batchTransitionReceipt env.batchID env.jobID)
      fun _ answer => answer = .ok (some receipt)

section Member

variable {store : MemoryStore}

section Kept

variable (stand : store.ReceiptsStand)
  (found : store.transitionReceipt .batch env.batchID env.jobID = some receipt)
  (owned : OwnedBy env receipt)

include stand found owned

/-- A batch that is kept shows its receipts. -/
theorem standsMember_of_keeps (keeps : store.Keeps .batch env.batchID calls) :
    ∃ later, (store.runCalls calls).batch env.batchID = some later ∧
      StandsMember env receipt later.state := by
  have standLater := stand.runCalls calls
  obtain ⟨later, present, stands⟩ := standLater.members _ _ _
    (stand.transitionReceipt_runCalls found keeps)
  obtain ⟨named, _, consistent⟩ := standLater.batches _ _ present
  exact ⟨later, present, .of_standing stands named consistent owned⟩

/-- The memory store presents a receipt while it keeps the batch. -/
theorem presentsMember_of_serves (serves : ServesKept environment .batch env.batchID store)
    (tells : ∀ state, environment.answers (.memory (.getBatch env.batchID))
      (.ok state) -> StandsMember env receipt state -> known state) :
    PresentsMember environment MemoryStore.methods env receipt known where
  batch := by
    refine Ensures.perform fun answer allowed => ?_
    obtain ⟨calls, now, keeps, same⟩ := serves _ _ allowed
    obtain ⟨later, present, stands⟩ := standsMember_of_keeps stand found owned keeps
    have read : (store.runCalls calls).getBatch env.batchID = .ok later.state := by
      simp [MemoryStore.getBatch, present]
    have told : answer = .ok later.state := same.trans read
    exact ⟨later.state, told, tells _ (told ▸ allowed) stands⟩
  receipt := by
    refine ⟨_, rfl, Ensures.perform fun answer allowed => ?_⟩
    obtain ⟨calls, now, keeps, rfl⟩ := serves _ _ allowed
    obtain ⟨later, present, stands⟩ := standsMember_of_keeps stand found owned keeps
    have agrees := stands.agrees
    have read : (store.runCalls calls).batchTransitionReceipt env.batchID
        env.jobID = .ok (some receipt) := by
      simp [MemoryStore.batchTransitionReceipt, present,
        stand.transitionReceipt_runCalls found keeps, validateTransitionReceiptSupport,
        agrees.workflowDispatchID, agrees.workflowCreatedAt, agrees.supported]
    exact read

end Kept

variable (agree : store.ReceiptsAgree)
  (found : store.transitionReceipt .batch env.batchID env.jobID = some receipt)
  (serves : ServesLater environment .batch env.batchID store) (owned : OwnedBy env receipt)

include agree found serves

/-- Every answer for a batch that is retained shows the settlement. -/
theorem showsMember_of_serves
    (allowed : environment.answers (.memory (.getBatch env.batchID)) (.ok state))
    (stands : StandsMember env receipt state) :
    ShowsMember env receipt state := by
  obtain ⟨calls, now, retains, same⟩ := serves _ _ allowed
  have agreeLater := agree.runCalls (MemoryStore.ReceiptsAgree.permitted_of_retains retains)
  have kept := agree.transitionReceipt_runCalls found (MemoryStore.keeps_of_retains retains)
  obtain ⟨later, present, _⟩ := agreeLater.members _ _ _ kept
  have read : (store.runCalls calls).getBatch env.batchID = .ok later.state := by
    simp [MemoryStore.getBatch, present]
  cases Except.ok.inj (same.trans read)
  exact stands.shows (agreeLater.cancelled _ _ _ _ present kept)

include owned

/-- The recovery of a member with a receipt of its own always settles the
delivery. -/
theorem ensures_recoverCommittedBatchTransition_owned (builtin : r.store = MemoryStore.methods)
    (recovered : recoveredDeliveryProvenance context = some provenance) :
    Ensures environment (recoverCommittedBatchTransition r context env) fun log result => ∃ final,
      result = some final ∧ ¬HandlerRan log ∧ final.any GoError.isUncommitted = false := by
  have presents := presentsMember_of_serves agree.toReceiptsStand found owned serves.kept
    fun _ => showsMember_of_serves agree found serves
  rw [← builtin] at presents
  obtain ⟨receipts, capable, read⟩ := presents.receipt
  refine Ensures.weaken (recoverCommittedBatchTransition_known presents.batch
    read (builtin ▸ MemoryStore.methods_passive) capable recovered
    (fun _ shown => shown.consistent) (fun _ shown => shown.proves)) ?_
  rintro log _ ⟨state, final, _, rfl, used, failed, succeeded⟩
  refine ⟨final, rfl, not_handlerRan_of_recoveredOp used, ?_⟩
  obtain ⟨_, _, agrees⟩ := agree.members _ _ _ found
  rcases agrees.outcome with outcome | outcome
  · rw [succeeded outcome]
    rfl
  · rw [failed outcome]
    rfl

end Member

/-! ## Honest recovery -/

/-- A committed chain delivery left a receipt of its own. -/
theorem recorded_of_commits_node
    (builtin : r.store = MemoryStore.methods) (agree : store.ReceiptsAgree)
    (commits : Commits (handleInternalChainNode r d.context d.env) store after) :
    after.ReceiptsAgree ∧ ∃ receipt, after.transitionReceipt .chain d.env.chainID d.env.nodeID =
        some receipt ∧ receipt.owner = d.claim := by
  obtain ⟨surroundings, log, result, call, now, runs, logged, claimed, valid, rfl⟩ := commits
  have start : Phase.ofNode d (.node d none) := rfl
  have own := Meets.ensures (meets_handleInternalChainNode builtin) start
    (fun _ _ _ _ => EngineMoves.ofNode) log result runs _ logged
  exact recorded_of_nodeOp agree own claimed valid

/-- A committed batch delivery left a receipt of its own. -/
theorem recorded_of_commits_member
    (builtin : r.store = MemoryStore.methods) (agree : store.ReceiptsAgree)
    (commits : Commits (handleInternalBatchJob r d.context d.env) store after) :
    after.ReceiptsAgree ∧ ∃ receipt, after.transitionReceipt .batch d.env.batchID d.env.jobID =
        some receipt ∧ receipt.owner = d.claim := by
  obtain ⟨surroundings, log, result, call, now, runs, logged, claimed, valid, rfl⟩ := commits
  have start : Phase.ofMember d (.member d false) := rfl
  have builtin : r.store = StoreKind.memory.methods := builtin
  have own := Meets.ensures (meets_handleInternalBatchJob builtin) start
    (fun _ _ _ _ => EngineMoves.ofMember) log result runs _ logged
  exact recorded_of_memberOp agree own claimed valid

/-- Receipts of the memory store do not change while their workflow is
retained, agree with it, and make every recovery of a committed delivery end
without its handler. A chain delivery is left unsettled only when the queue
refused the next node, a batch delivery never. -/
theorem honest_recovery_never_jams {calls : List StoreCall}
    (permitted : MemoryStore.empty.Permitted calls) :
    let store := MemoryStore.empty.runCalls calls
    (∀ kind workflowID memberID receipt later,
      store.transitionReceipt kind workflowID memberID = some receipt ->
      store.Retains kind workflowID later ->
      (store.runCalls later).transitionReceipt kind workflowID memberID = some receipt) ∧
    (∀ chainID nodeID receipt, store.transitionReceipt .chain chainID nodeID = some receipt ->
      ∃ chain index, store.chains chainID = some chain ∧
        chainNodePosition chain.state.nodes nodeID = some index ∧
        (receipt.outcome = .succeeded ∧ (index : Int) < chain.state.nextIndex ∧
            (receipt.aggregateCompleted = true ↔ index + 1 = chain.state.nodes.length) ∨
          receipt.outcome = .failed ∧ (index : Int) = chain.state.nextIndex ∧
            chain.state.failed = true)) ∧
    (∀ batchID first second receipt other,
      store.transitionReceipt .batch batchID first = some receipt ->
      store.transitionReceipt .batch batchID second = some other ->
      receipt.aggregateCompleted = true -> other.aggregateCompleted = true ->
      first = second) ∧
    (∀ (r : Runtime) (d : Delivery) (committed : MemoryStore), r.store = MemoryStore.methods ->
      Commits (handleInternalChainNode r d.context d.env) store committed ->
      ∀ (environment : Environment Op Op.Answer) (context : DeliveryContext)
        (provenance : DeliveryProvenance),
        ServesLater environment .chain d.env.chainID committed ->
        recoveredDeliveryProvenance context = some provenance ->
        applyDeliveryAttempt context d.env = d.executed ->
        Ensures environment (recoverCommittedChain r context d.executed)
          (fun _ result => result.isSome = true) ∧
        (∃ log final, Logs environment (handleInternalChainNode r context d.env) log final) ∧
        Ensures environment (handleInternalChainNode r context d.env)
          fun log final => ¬HandlerRan log ∧ ∀ chain, committed.chains d.env.chainID = some chain ->
              CarriesJob d.env chain.state.nodes ->
              final.any GoError.isUncommitted = true ->
              SuccessorRefused log final) ∧
    ∀ (r : Runtime) (d : Delivery) (committed : MemoryStore), r.store = MemoryStore.methods ->
      Commits (handleInternalBatchJob r d.context d.env) store committed ->
      ∀ (environment : Environment Op Op.Answer) (context : DeliveryContext)
        (provenance : DeliveryProvenance),
        ServesLater environment .batch d.env.batchID committed ->
        recoveredDeliveryProvenance context = some provenance ->
        applyDeliveryAttempt context d.env = d.executed ->
        Ensures environment (recoverCommittedBatchTransition r context d.executed)
          (fun _ result => result.isSome = true) ∧
        (∃ log final, Logs environment (handleInternalBatchJob r context d.env) log final) ∧
        Ensures environment (handleInternalBatchJob r context d.env)
          fun log final => ¬HandlerRan log ∧ final.any GoError.isUncommitted = false := by
  intro store
  have agree : store.ReceiptsAgree := MemoryStore.ReceiptsAgree.empty.runCalls permitted
  refine ⟨?_, ?_, agree.single, ?_, ?_⟩
  · intro kind workflowID memberID receipt later found retains
    exact agree.transitionReceipt_runCalls found (MemoryStore.keeps_of_retains retains)
  · intro chainID nodeID receipt found
    obtain ⟨chain, stored, agrees⟩ := agree.nodes _ _ _ found
    obtain ⟨index, position, transition⟩ := agrees.transition
    refine ⟨chain, index, stored, position, ?_⟩
    cases transition with
    | success outcome passed completed => exact .inl ⟨outcome, passed, by simp [completed]⟩
    | failure outcome current failed => exact .inr ⟨outcome, current, failed⟩
  · intro r d committed builtin commits environment context provenance serves recovered delivered
    obtain ⟨agreeAfter, receipt, found, owner⟩ := recorded_of_commits_node builtin agree commits
    have owned := OwnedBy.of_claim owner
    rw [← d.executed_chainID, ← d.executed_nodeID] at found
    rw [← d.executed_chainID] at serves
    obtain ⟨chain, stored, _⟩ := agreeAfter.nodes _ _ _ found
    have presents := presentsNode_of_serves agreeAfter.toReceiptsStand stored found serves.kept
    rw [← builtin] at presents
    have kept : committed.Keeps .chain d.executed.chainID [] := trivial
    obtain ⟨_, present, shown⟩ := showsNode_of_keeps agreeAfter.toReceiptsStand stored found kept
    have recovers := ensures_recoverCommittedChain_owned
      (builtin ▸ MemoryStore.methods_passive) presents recovered owned shown
    refine ⟨Ensures.weaken recovers ?_, Logs.exists_run _ _, ?_⟩
    · rintro _ _ ⟨final, rfl, _⟩
      rfl
    unfold handleInternalChainNode
    simp only [recovered, delivered]
    refine Ensures.bind (Ensures.and recovers (ensures_recoverCommittedChain
      (builtin ▸ MemoryStore.methods_passive) recovered)) ?_
    rintro log _ ⟨⟨final, rfl, settles⟩, justified, _⟩
    refine Ensures.ret ?_
    rw [List.append_nil]
    refine ⟨justified.not_handlerRan, ?_⟩
    intro other same carries
    rw [← d.executed_chainID, stored, Option.some_inj] at same
    subst same
    refine settles ?_
    obtain ⟨index, position, job⟩ := carries
    refine ⟨index, by rw [d.executed_nodeID]; exact position, ?_⟩
    rw [d.carries_executed.job]
    exact job
  · intro r d committed builtin commits environment context provenance serves recovered delivered
    obtain ⟨agreeAfter, receipt, found, owner⟩ := recorded_of_commits_member builtin agree commits
    have owned := OwnedBy.of_claim owner
    rw [← d.executed_batchID, ← d.executed_jobID] at found
    rw [← d.executed_batchID] at serves
    have recovers := ensures_recoverCommittedBatchTransition_owned agreeAfter
      found serves owned builtin recovered
    refine ⟨Ensures.weaken recovers ?_, Logs.exists_run _ _, ?_⟩
    · rintro _ _ ⟨final, rfl, _⟩
      rfl
    unfold handleInternalBatchJob
    simp only [recovered, delivered]
    refine Ensures.bind recovers ?_
    rintro log _ ⟨final, rfl, quiet, settled⟩
    refine Ensures.ret ?_
    rw [List.append_nil]
    exact ⟨quiet, settled⟩

/-- The record of a chain of two nodes. -/
def createdChain : ChainRecord where
  chainID := "chain"
  dispatchID := "dispatch"
  queue := ""
  nodes := twoNodeState.nodes
  createdAt := 0

/-- The record of a batch of one member. -/
def createdBatch : BatchRecord where
  batchID := "batch"
  dispatchID := "dispatch"
  name := ""
  queue := ""
  allowFailed := true
  createdAt := 0
  jobs := [{ jobID := "job", job := failedMemberEnvelope.job }]

/-- A chain of two nodes and a batch of one member, both just created. -/
def createdWorkflows : List StoreCall :=
  [.chain (.createChain createdChain 0), .batch (.createBatch createdBatch 0)]

/-- Surroundings in which a store does not change and handlers succeed. -/
noncomputable def servedBy (store : MemoryStore) : (operation : Op) -> operation.Answer
  | .memory call => (call.run store 0).1
  | .now => (0 : Time)
  | .newID _ => ""
  | .emit _ _ => ()
  | .lookupHandler _ => true
  | .handle _ => (none : Option GoError)
  | operation => Classical.choice operation.nonempty_answer

/-- The first delivery of a message, by the generation that is recovered
later. -/
def firstDelivery (kind : DeliveryType) (env : Envelope) : Delivery where
  message := { kind := kind, env := env }
  context := { provenance := some { generationID := "generation" } }

theorem honest_recovery_never_jams_created_workflows :
    let store := MemoryStore.empty.runCalls createdWorkflows
    let node := firstDelivery .chainNode firstNodeEnvelope
    let advanced := store.advanceChainOutcome "chain" "first" node.claim 0
    let member := firstDelivery .batchJob failedMemberEnvelope
    let settled := store.settleBatchOutcome "batch" "job" .succeeded member.claim 0
    (∃ log final, Logs (.answering (servedBy advanced.2))
        (handleInternalChainNode { store := MemoryStore.methods }
          recoveringContext firstNodeEnvelope) log final ∧
        ¬HandlerRan log) ∧
    ∃ log final, Logs (.answering (servedBy settled.2))
        (handleInternalBatchJob { store := MemoryStore.methods }
          recoveringContext failedMemberEnvelope) log final ∧
        ¬HandlerRan log ∧ final.any GoError.isUncommitted = false := by
  intro store node advanced member settled
  let r : Runtime := { store := MemoryStore.methods }
  have permitted : MemoryStore.empty.Permitted createdWorkflows := by decide
  obtain ⟨_, _, _, chains, batches⟩ := honest_recovery_never_jams permitted
  have advances : Commits (handleInternalChainNode r node.context node.env) store advanced.2 :=
    ⟨.answering (servedBy store), _, _, .advanceChainOutcome "chain" "first" node.claim, 0,
      Logs.of_answered _ _, List.mem_of_getElem? (i := 6) rfl, rfl, rfl, rfl⟩
  have settles : Commits (handleInternalBatchJob r member.context member.env) store settled.2 :=
    ⟨.answering (servedBy store), _, _, .settleBatchOutcome "batch" "job" .succeeded member.claim,
      0, Logs.of_answered _ _, List.mem_of_getElem? (i := 8) rfl, rfl, rfl, rfl⟩
  constructor
  · obtain ⟨_, ⟨log, final, runs⟩, ends⟩ := chains r node advanced.2 rfl
      advances (.answering (servedBy advanced.2)) recoveringContext _
      (fun call _ same => ⟨[], 0, trivial, same⟩) rfl rfl
    exact ⟨log, final, runs, (ends log final runs).1⟩
  · obtain ⟨_, ⟨log, final, runs⟩, ends⟩ := batches r member settled.2 rfl
      settles (.answering (servedBy settled.2)) recoveringContext _
      (fun call _ same => ⟨[], 0, trivial, same⟩) rfl rfl
    exact ⟨log, final, runs, ends log final runs⟩

end JobQueue.Workflow
