import JobQueue.Workflow.Recovery.Receipts

/-!
# Refusing to recover a chain delivery

A recovered delivery of a chain node is followed against arbitrary answers of
its store. When the presented state or receipt disagrees with the envelope,
the recovery asks for nothing but the store and is refused.
-/

namespace JobQueue.Workflow

open Interleaving

/-! ## Agreement of state and receipt with the envelope -/

/-- The state holds the node and job of the envelope, not ahead of the chain. -/
structure HoldsNode (env : Envelope) (state : ChainState) (index : Nat) : Prop where
  chainID : state.chainID = env.chainID
  dispatchID : dispatchMismatch state.dispatchID env.dispatchID = false
  position : chainNodePosition state.nodes env.nodeID = some index
  order : (index : Int) ≤ state.nextIndex
  job : (state.nodes[index]?).map (·.job) = some env.job

/-- The receipt belongs to the node of the envelope in this chain. -/
abbrev ChainReceiptAgrees (env : Envelope) (state : ChainState) (receipt : TransitionReceipt) :
    Prop :=
  ReceiptAgrees .chain env.chainID env.nodeID state.dispatchID state.createdAt env receipt

/-- The receipt proves the success of the node at a position. -/
structure SuccessReceipt (env : Envelope) (state : ChainState) (index : Nat)
    (receipt : TransitionReceipt) : Prop where
  agrees : ChainReceiptAgrees env state receipt
  outcome : receipt.outcome = .succeeded
  aggregateCancelled : receipt.aggregateCancelled = false
  aggregateCompleted : receipt.aggregateCompleted = decide (index + 1 = state.nodes.length)

/-- The receipt proves the failure of the node. -/
structure FailureReceipt (env : Envelope) (state : ChainState) (receipt : TransitionReceipt) :
    Prop where
  agrees : ChainReceiptAgrees env state receipt
  outcome : receipt.outcome = .failed
  aggregateCompleted : receipt.aggregateCompleted = false
  aggregateCancelled : receipt.aggregateCancelled = false

/-- The state shows the success of the node as committed. -/
structure CommittedSuccess (env : Envelope) (state : ChainState) (index : Nat) : Prop where
  position : chainNodePosition state.nodes env.nodeID = some index
  passed : (index : Int) < state.nextIndex

/-- The state shows the failure of the node as committed. -/
structure CommittedFailure (env : Envelope) (state : ChainState) (index : Nat) : Prop where
  position : chainNodePosition state.nodes env.nodeID = some index
  current : (index : Int) = state.nextIndex
  failed : state.failed = true
  incomplete : state.completed = false

/-- What is presented disagrees with the envelope: in the state itself, or in
the receipt of an outcome that the state shows as committed. -/
inductive ChainDisagreement (env : Envelope) (state : ChainState) (presented : PresentedReceipt) :
    Prop
  | envelope (differs : ∀ index, ¬HoldsNode env state index)
  | success (index : Nat) (committed : CommittedSuccess env state index)
      (untrusted : Untrusted presented (SuccessReceipt env state index))
  | failure (index : Nat) (committed : CommittedFailure env state index)
      (untrusted : Untrusted presented (FailureReceipt env state))

/-- The store presents this state and this receipt to the delivery. -/
structure PresentsChain (environment : Environment Op Op.Answer) (store : Store) (env : Envelope)
    (state : ChainState) (presented : PresentedReceipt) : Prop where
  chain : Ensures environment (store.getChain env.chainID) fun _ answer =>
    answer = .ok state
  capability : store.transitionReceiptStore.isSome = presented.isSome
  receipt : ∀ receipts answer, store.transitionReceiptStore = some receipts ->
    presented = some answer ->
    Ensures environment (receipts.chainTransitionReceipt env.chainID env.nodeID)
      fun _ read => read = answer

theorem chainReceiptAgrees (belongs : receiptMatchesChain env state receipt = true)
    (accepted : validateRecoveredTransitionReceipt env receipt false = none) :
    ChainReceiptAgrees env state receipt := by
  simp only [receiptMatchesChain, Bool.and_eq_true, decide_eq_true_eq, beq_iff_eq] at belongs
  obtain ⟨⟨⟨⟨kind, workflow⟩, member⟩, dispatch⟩, createdAt⟩ := belongs
  obtain ⟨supported, valid, owner, job, _⟩ := validateRecoveredTransitionReceipt_eq_none accepted
  exact ⟨kind, workflow, member, dispatch, createdAt, supported, valid, owner, job⟩

/-- A failure receipt that passes every check proves the failure. -/
theorem failureReceipt_of_accepted (accepted : refuseFailureReceipt env state receipt = none) :
    FailureReceipt env state receipt := by
  simp only [refuseFailureReceipt, check_eq_none, not_not, not_or,
    Bool.not_eq_true, Bool.not_eq_false] at accepted
  obtain ⟨belongs, outcome, ⟨completed, cancelled⟩, accepted⟩ := accepted
  exact ⟨chainReceiptAgrees belongs accepted, outcome, completed, cancelled⟩

/-! ## Refusal -/

section Refusal

variable {r : Runtime} {state : ChainState}

/-- Reading the chain only asks the store and gives the presented state. -/
theorem PresentsChain.reads (presents : PresentsChain environment r.store env state presented)
    (passive : r.store.Passive) :
    Leaves Op.foreign environment (r.store.getChain env.chainID)
      fun seen answer => seen = [] ∧ answer = .ok state :=
  Ensures.and (Leaves.of_unseen (passive.getChain _).unseen_foreign) presents.chain

/-- Reading the receipt only asks the store and gives the presented answer. -/
theorem PresentsChain.readsReceipt
    (presents : PresentsChain environment r.store env state presented) (passive : r.store.Passive)
    (capable : r.store.transitionReceiptStore = some receipts) :
    Leaves Op.foreign environment (receipts.chainTransitionReceipt env.chainID env.nodeID)
      fun seen answer => seen = [] ∧ presented = some answer := by
  have isSome := presents.capability
  rw [capable] at isSome
  obtain ⟨answer, known⟩ := Option.isSome_iff_exists.mp isSome.symm
  refine Ensures.weaken (Ensures.and (Leaves.of_unseen
        (passive.chainTransitionReceipt _ capable _ _).unseen_foreign)
      (presents.receipt _ _ capable known)) ?_
  rintro log read ⟨unseen, rfl⟩
  exact ⟨unseen, known⟩

theorem PresentsChain.incapable (presents : PresentsChain environment r.store env state presented)
    (absent : r.store.transitionReceiptStore = none) : presented = none := by
  have isSome := presents.capability
  rw [absent] at isSome
  exact Option.not_isSome_iff_eq_none.mp (by simp [← isSome])

/-- What the failure recovery makes of a presented chain. -/
inductive FailureVerdict (env : Envelope) (state : ChainState) (presented : PresentedReceipt) :
    Option (Option GoError) -> Prop
  | refused (error : GoError) :
      FailureVerdict env state presented (some (some
        (uncommittedMutationError "recover committed chain failure" error)))
  | passedOver
      (trusted : ∀ index, CommittedFailure env state index ->
        ¬Untrusted presented (FailureReceipt env state)) :
      FailureVerdict env state presented none
  | committed (index : Nat) (receipt : TransitionReceipt) (holds : HoldsNode env state index)
      (failed : CommittedFailure env state index) (known : presented = some (.ok (some receipt)))
      (proves : FailureReceipt env state receipt) :
      FailureVerdict env state presented (some (some (committedChainFailure env state)))

/-- The owner of a failure is the node the chain stopped at. -/
theorem owned_of_chainNodeFailureDisposition
    (position : chainNodePosition state.nodes nodeID = some index)
    (failed : state.failed = true) (incomplete : state.completed = false)
    (decided : chainNodeFailureDisposition state nodeID = .ok disposition) :
    disposition.owned = true ↔ (index : Int) = state.nextIndex := by
  simp only [chainNodeFailureDisposition, position, failed, incomplete,
    Bool.false_eq_true, if_false, if_true] at decided
  split at decided
  · cases decided
  split at decided
  · cases decided
  · cases decided
    simp

theorem not_untrusted_none : ¬Untrusted none agrees := by
  rintro (⟨_, unknown⟩ | ⟨_, unknown, _⟩) <;> cases unknown

theorem not_untrusted_absent : ¬Untrusted (some (.ok none)) agrees := by
  rintro (⟨_, unknown⟩ | ⟨_, unknown, _⟩) <;> cases unknown

/-- The failure recovery asks only the store, and reaches one of three
verdicts. -/
theorem recoverCommittedChainFailure_presented
    (presents : PresentsChain environment r.store env state presented) (passive : r.store.Passive)
    (recovered : recoveredDeliveryProvenance context = some provenance) :
    Leaves Op.foreign environment (recoverCommittedChainFailure r context env) fun seen result =>
        seen = [] ∧ FailureVerdict env state presented result := by
  unfold recoverCommittedChainFailure
  simp only [recovered]
  refine Leaves.bind (presents.reads passive) ?_
  rintro _ _ ⟨rfl, rfl⟩
  simp only [List.nil_append]
  split
  · exact Leaves.ret ⟨rfl, .refused _⟩
  rename_i sameChain
  split
  · exact Leaves.ret ⟨rfl, .refused _⟩
  rename_i sameDispatch
  split
  · rename_i running
    refine Leaves.ret ⟨rfl, .passedOver ?_⟩
    intro index committed
    simp [committed.failed, committed.incomplete] at running
  rename_i stopped
  simp only [not_or, Bool.not_eq_true, Bool.not_eq_false] at stopped
  split
  · exact Leaves.ret ⟨rfl, .refused _⟩
  rename_i index position
  split
  · exact Leaves.ret ⟨rfl, .refused _⟩
  rename_i disposition decided
  have owner := owned_of_chainNodeFailureDisposition position stopped.1 stopped.2 decided
  split
  · rename_i unowned
    refine Leaves.ret ⟨rfl, .passedOver ?_⟩
    intro other committed
    have same : other = index := Option.some.inj (committed.position.symm.trans position)
    exact absurd (owner.mpr (same ▸ committed.current)) unowned
  rename_i owned
  have current := owner.mp (not_not.mp owned)
  split
  · exact Leaves.ret ⟨rfl, .refused _⟩
  rename_i sameJob
  cases capable : r.store.transitionReceiptStore with
  | none =>
    rw [presents.incapable capable]
    exact Leaves.ret ⟨rfl, .passedOver fun _ _ => not_untrusted_none⟩
  | some receipts =>
    refine Leaves.bind (presents.readsReceipt passive capable) ?_
    rintro _ (error | _ | receipt) ⟨rfl, known⟩
    · exact Leaves.ret ⟨rfl, .refused _⟩
    · rw [known]
      exact Leaves.ret ⟨rfl, .passedOver fun _ _ => not_untrusted_absent⟩
    · simp only [List.nil_append]
      split
      · exact Leaves.ret ⟨rfl, .refused _⟩
      · rename_i accepted
        exact Leaves.ret ⟨rfl, .committed index receipt ⟨not_not.mp sameChain,
          Bool.eq_false_iff.mpr sameDispatch, position, Int.le_of_eq current,
          not_not.mp sameJob⟩ ⟨position, current, stopped.1,
          stopped.2⟩ known (failureReceipt_of_accepted accepted)⟩

/-- The error of a success recovery that is refused. -/
abbrev refusedSuccess (error : GoError) : GoError :=
  uncommittedMutationError "recover committed chain success" error

/-- The success recovery of a node whose success the state shows. -/
def recoverOwnedSuccess (r : Runtime) (context : DeliveryContext) (provenance : DeliveryProvenance)
    (env : Envelope) (state : ChainState) (index : Nat) :
    Engine (Option (Option GoError)) :=
  match r.store.transitionReceiptStore with
  | none => do
      let result ← recoverCommittedChainSuccessor env state index
      return some result
  | some receipts => do
      match ← receipts.chainTransitionReceipt env.chainID env.nodeID with
      | .error error => return some (some (refusedSuccess error))
      | .ok none =>
        let result ← recoverCommittedChainSuccessor env state index
        return some result
      | .ok (some receipt) =>
        let result ← recoverChainReceipt context provenance env state index receipt
        return some result

/-- How the success recovery goes on after it read the chain. -/
inductive SuccessStage (r : Runtime) (context : DeliveryContext) (provenance : DeliveryProvenance)
    (env : Envelope) (state : ChainState) :
    Engine (Option (Option GoError)) -> Prop
  | refused (error : GoError) :
      SuccessStage r context provenance env state (.ret (some (some (refusedSuccess error))))
  | waiting (index : Nat) (holds : HoldsNode env state index)
      (current : (index : Int) = state.nextIndex) :
      SuccessStage r context provenance env state (.ret none)
  | owned (index : Nat) (holds : HoldsNode env state index)
      (committed : CommittedSuccess env state index) :
      SuccessStage r context provenance env state
        (recoverOwnedSuccess r context provenance env state index)

/-- Where the success of a node stands. -/
theorem successOwned_of_chainNodeSuccessDisposition
    (position : chainNodePosition state.nodes nodeID = some index)
    (decided : chainNodeSuccessDisposition state nodeID = .ok successOwned) :
    (index : Int) ≤ state.nextIndex ∧ successOwned = decide ((index : Int) < state.nextIndex) := by
  simp only [chainNodeSuccessDisposition, position] at decided
  split at decided
  · cases decided
  split at decided
  · cases decided
  · cases decided
    exact ⟨by omega, rfl⟩

theorem recoverCommittedChainSuccess_stages
    (recovered : recoveredDeliveryProvenance context = some provenance) :
    ∃ continuation,
        recoverCommittedChainSuccess r context env = r.store.getChain env.chainID >>= continuation ∧
        (∀ error, continuation (.error error) = .ret (some (some (refusedSuccess error)))) ∧
        ∀ state, SuccessStage r context provenance env state (continuation (.ok state)) := by
  unfold recoverCommittedChainSuccess
  simp only [recovered]
  refine ⟨_, rfl, fun _ => rfl, fun state => ?_⟩
  dsimp only
  split
  · exact .refused _
  rename_i sameChain
  split
  · exact .refused _
  rename_i sameDispatch
  split
  · exact .refused _
  rename_i index position
  split
  · exact .refused _
  rename_i successOwned decided
  obtain ⟨order, owner⟩ := successOwned_of_chainNodeSuccessDisposition position decided
  split
  · exact .refused _
  rename_i sameJob
  have holds : HoldsNode env state index :=
    ⟨not_not.mp sameChain, Bool.eq_false_iff.mpr sameDispatch, position, order, not_not.mp sameJob⟩
  split
  · rename_i unowned
    refine .waiting index holds ?_
    simp only [owner, decide_eq_true_eq] at unowned
    omega
  · rename_i owned
    refine .owned index holds ⟨position, ?_⟩
    simp only [owner, decide_eq_true_eq, not_not] at owned
    exact owned

/-- The delivery reports what its own generation committed. -/
def recoverExactSuccess (context : DeliveryContext) (env : Envelope) (state : ChainState)
    (index : Nat) (receipt : TransitionReceipt) : Engine (Option GoError) := do
  let observed ← readClock
  match recoveredStoredJobSuccess env receipt observed with
  | .error error => return some (refusedSuccess error)
  | .ok outcome => reportRecoveredChainSuccess context env state index outcome

/-- How the success recovery goes on after it read a receipt. -/
inductive ReceiptStage (context : DeliveryContext) (provenance : DeliveryProvenance)
    (env : Envelope) (state : ChainState) (index : Nat)
    (receipt : TransitionReceipt) : Engine (Option GoError) -> Prop
  | refused (error : GoError) :
      ReceiptStage context provenance env state index receipt (.ret (some (refusedSuccess error)))
  | otherOwner (proves : SuccessReceipt env state index receipt) :
      ReceiptStage context provenance env state index receipt
        (recoverCommittedChainSuccessor env state index)
  | exactOwner (proves : SuccessReceipt env state index receipt)
      (owner : ExactOwner provenance env receipt) :
      ReceiptStage context provenance env state index receipt
        (recoverExactSuccess context env state index receipt)

theorem recoverChainReceipt_stage (context : DeliveryContext) (provenance : DeliveryProvenance)
    (env : Envelope) (state : ChainState) (index : Nat) (receipt : TransitionReceipt) :
    ReceiptStage context provenance env state index receipt
      (recoverChainReceipt context provenance env state index receipt) := by
  simp only [recoverChainReceipt]
  split
  · exact .refused _
  rename_i belongs
  split
  · exact .refused _
  rename_i accepted
  split
  · exact .refused _
  rename_i outcome
  split
  · exact .refused _
  rename_i uncancelled
  split
  · exact .refused _
  rename_i position
  have proves : SuccessReceipt env state index receipt :=
    ⟨chainReceiptAgrees (not_not.mp belongs) accepted, not_not.mp outcome,
      Bool.eq_false_iff.mpr uncancelled, not_not.mp position⟩
  split
  · exact .otherOwner proves
  · rename_i owns
    exact .exactOwner proves (exactOwner_of_owns (not_not.mp owns))

section Presented

variable (presents : PresentsChain environment r.store env state presented)
  (passive : r.store.Passive)
include presents passive

/-- Without trust in the receipt of a committed success the recovery is
refused. -/
theorem recoverOwnedSuccess_refuses
    (untrusted : Untrusted presented (SuccessReceipt env state index)) :
    Leaves Op.foreign environment (recoverOwnedSuccess r context provenance env state index)
      fun seen result => seen = [] ∧ Refused result := by
  unfold recoverOwnedSuccess
  cases capable : r.store.transitionReceiptStore with
  | none =>
    rw [presents.incapable capable] at untrusted
    exact absurd untrusted not_untrusted_none
  | some receipts =>
    refine Leaves.bind (presents.readsReceipt passive capable) ?_
    rintro _ (error | _ | receipt) ⟨rfl, known⟩
    · exact Leaves.ret ⟨rfl, refused_uncommittedMutationError⟩
    · rw [known] at untrusted
      exact absurd untrusted not_untrusted_absent
    · rw [known] at untrusted
      have unproven : ¬SuccessReceipt env state index receipt := by
        rcases untrusted with ⟨_, failed⟩ | ⟨_, same, unproven⟩
        · cases failed
        · cases same
          exact unproven
      have stage := recoverChainReceipt_stage context provenance env state index receipt
      simp only [List.nil_append]
      generalize recoverChainReceipt context provenance env state index receipt = program at stage
      cases stage with
      | refused error => exact Leaves.ret ⟨rfl, refused_uncommittedMutationError⟩
      | otherOwner proves => exact absurd proves unproven
      | exactOwner proves => exact absurd proves unproven

/-- The success recovery refuses what disagrees with its envelope or with a
success it claims. -/
theorem recoverCommittedChainSuccess_refuses
    (recovered : recoveredDeliveryProvenance context = some provenance)
    (disagrees : ∀ index, HoldsNode env state index -> CommittedSuccess env state index ∧
        Untrusted presented (SuccessReceipt env state index)) :
    Leaves Op.foreign environment (recoverCommittedChainSuccess r context env)
      fun seen result => seen = [] ∧ Refused result := by
  obtain ⟨continuation, same, _, stages⟩ := recoverCommittedChainSuccess_stages recovered
  rw [same]
  refine Leaves.bind (presents.reads passive) ?_
  rintro _ _ ⟨rfl, rfl⟩
  have stage := stages state
  generalize continuation (.ok state) = program at stage
  cases stage with
  | refused error => exact Leaves.ret ⟨rfl, refused_uncommittedMutationError⟩
  | waiting index holds current =>
    have passed := (disagrees index holds).1.passed
    omega
  | owned index holds committed =>
    exact recoverOwnedSuccess_refuses presents passive (disagrees index holds).2

/-- A recovered delivery whose state or receipt disagrees is refused, having
asked only the store. -/
theorem recoverCommittedChain_refuses
    (recovered : recoveredDeliveryProvenance context = some provenance)
    (disagrees : ChainDisagreement env state presented) :
    Leaves Op.foreign environment (recoverCommittedChain r context env)
      fun seen result => seen = [] ∧ Refused result := by
  refine Leaves.bind (recoverCommittedChainFailure_presented presents passive recovered) ?_
  rintro _ _ ⟨rfl, verdict⟩
  have single : ∀ {first second : Nat}, chainNodePosition state.nodes env.nodeID = some first ->
      chainNodePosition state.nodes env.nodeID = some second ->
      first = second :=
    fun first second => Option.some.inj (first.symm.trans second)
  cases verdict with
  | refused error => exact Leaves.ret ⟨rfl, refused_uncommittedMutationError⟩
  | passedOver trusted =>
    refine recoverCommittedChainSuccess_refuses presents passive recovered ?_
    intro index holds
    cases disagrees with
    | envelope differs => exact absurd holds (differs index)
    | success other committed untrusted =>
      cases single holds.position committed.position
      exact ⟨committed, untrusted⟩
    | failure other committed untrusted => exact absurd untrusted (trusted other committed)
  | committed index receipt holds failed known proves =>
    exfalso
    cases disagrees with
    | envelope differs => exact differs index holds
    | success other committed untrusted =>
      cases single failed.position committed.position
      exact absurd failed.current (Int.ne_of_lt committed.passed)
    | failure other committed untrusted =>
      rcases untrusted with ⟨_, unread⟩ | ⟨other, same, unproven⟩
      · simp [known] at unread
      · simp only [known, Option.some.injEq, Except.ok.injEq] at same
        exact unproven (same ▸ proves)

end Presented

/-- The delivery is refused with the recovery. -/
theorem handleInternalChainNode_refuses
    (presents : PresentsChain environment r.store
      (applyDeliveryAttempt context env) state presented)
    (passive : r.store.Passive)
    (recovered : recoveredDeliveryProvenance context = some provenance)
    (disagrees : ChainDisagreement (applyDeliveryAttempt context env) state presented) :
    Leaves Op.foreign environment (handleInternalChainNode r context env)
      fun seen result => seen = [] ∧ ∃ error, result = some error ∧ error.isUncommitted = true := by
  unfold handleInternalChainNode
  simp only [recovered]
  refine Leaves.bind (recoverCommittedChain_refuses presents passive recovered disagrees) ?_
  rintro _ _ ⟨rfl, error, rfl, uncommitted⟩
  exact Leaves.ret ⟨rfl, error, rfl, uncommitted⟩

end Refusal

end JobQueue.Workflow
