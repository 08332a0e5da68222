import JobQueue.Workflow.Chain

/-!
# Slice indexing over arbitrary chain states

The functions that decide about a chain node, written with every slice index
checked: an index out of range stops them, as the panic stops the source. No
state that a store may return stops any of them, so they compute what the
functions without the check compute.
-/

namespace JobQueue.Workflow.Checked

open Interleaving

/-- `nodes[index]`; nothing is the panic of the source. -/
def nodeAt (nodes : List ChainNode) (index : Int) : Option ChainNode :=
  if index < 0 then none else nodes[index.toNat]?

/-- An order error names the node the chain waits for, so it reads it. -/
def nodeOrderError (state : ChainState) (nodeID relation : String) : Option GoError := do
  let _ ← nodeAt state.nodes state.nextIndex
  return Workflow.nodeOrderError state nodeID relation

/-! ## Dispositions -/

/-- Whether the chain passed the node. -/
def chainNodeSuccessDisposition (state : ChainState) (nodeID : String) :
    Option (Except GoError Bool) := do
  if let some error := validateChainState state then return .error error
  let some index := chainNodePosition state.nodes nodeID
    | return .error (missingNodeError state nodeID)
  if state.nextIndex < index then
    return .error (← nodeOrderError state nodeID " before node ")
  return .ok (decide ((index : Int) < state.nextIndex))

/-- What a success finds. -/
def chainNodeAdvanceDisposition (state : ChainState) (nodeID : String) :
    Option (Except GoError AdvanceDisposition) := do
  let some index := chainNodePosition state.nodes nodeID
    | return .error (missingNodeError state nodeID)
  if state.completed then return .ok { done := true }
  if state.nextIndex < 0 ∨ (state.nodes.length : Int) ≤ state.nextIndex then
    return .error (invalidNextIndexError state)
  if state.failed then
    if state.nextIndex < index then
      return .error (← nodeOrderError state nodeID " after failure at node ")
    return .ok { done := true }
  if state.nextIndex < index then
    return .error (← nodeOrderError state nodeID " before node ")
  if (index : Int) = state.nextIndex then return .ok { claimable := true }
  return .ok { next := some (← nodeAt state.nodes state.nextIndex) }

/-- What a failure finds. -/
def chainNodeFailureDisposition (state : ChainState) (nodeID : String) :
    Option (Except GoError FailureDisposition) := do
  let some index := chainNodePosition state.nodes nodeID
    | return .error (missingNodeError state nodeID)
  if state.completed then return .ok {}
  if state.nextIndex < 0 ∨ (state.nodes.length : Int) ≤ state.nextIndex then
    return .error (invalidNextIndexError state)
  if state.failed then
    if state.nextIndex < index then
      return .error (← nodeOrderError state nodeID " after failure at node ")
    return .ok { owned := decide ((index : Int) = state.nextIndex) }
  if (index : Int) < state.nextIndex then return .ok {}
  if state.nextIndex < index then
    return .error (← nodeOrderError state nodeID " before node ")
  return .ok { claimable := true }

/-! ## Recovery -/

/-- Enqueue the successor again. -/
def recoverCommittedChainSuccessor (env : Envelope) (state : ChainState) (index : Nat) :
    OptionT Engine (Option GoError) := do
  if state.completed ∨ state.failed ∨ state.nextIndex ≠ index + 1 then
    return none
  let next ← (nodeAt state.nodes state.nextIndex).getM
  dispatchChainSuccessor env (some next)

/-- `recoverCommittedChainSuccess` once the receipt was read; the source reads
the next node in the same way at its end. -/
def recoverChainReceipt (context : DeliveryContext) (provenance : DeliveryProvenance)
    (env : Envelope) (state : ChainState) (index : Nat)
    (receipt : TransitionReceipt) : OptionT Engine (Option GoError) := do
  let refuse (error : GoError) : Option GoError :=
    some (uncommittedMutationError "recover committed chain success" error)
  if ¬receiptMatchesChain env state receipt then
    return refuse (.text "transition receipt does not match chain state")
  if let some error := validateRecoveredTransitionReceipt env receipt false then
    return refuse error
  if receipt.outcome ≠ .succeeded then
    return refuse (.text "transition receipt does not own success")
  if receipt.aggregateCancelled then
    return refuse (.text "successful chain receipt cannot own cancellation")
  if receipt.aggregateCompleted ≠ decide (index + 1 = state.nodes.length) then
    return refuse (.text ("transition receipt completion does not match chain node" ++ " position"))
  if ¬transitionReceiptOwnsRecoveredFacts env receipt provenance then
    recoverCommittedChainSuccessor env state index
  else
    match recoveredStoredJobSuccess env receipt (← readClock) with
    | .error error => return refuse error
    | .ok outcome =>
      emitStoredJobOutcome context outcome
      if index + 1 = state.nodes.length then
        emitFact context .chainCompleted (chainFactID .chainCompleted env) env none
        return none
      emitFact context .chainAdvanced (chainFactID .chainAdvanced env) env none
      recoverCommittedChainSuccessor env state index

/-- How both recoveries begin: the stored chain must be the one of the message. -/
def recoverChain (r : Runtime) (env : Envelope) (refuse : GoError -> Option (Option GoError))
    (proceed : ChainState -> OptionT Engine (Option (Option GoError))) :
    OptionT Engine (Option (Option GoError)) := do
  match ← r.store.getChain env.chainID with
  | .error error => return refuse error
  | .ok state =>
    if state.chainID ≠ env.chainID then
      return refuse (.text ("requested chain " ++ quoted env.chainID ++
        " returned state for " ++ quoted state.chainID))
    if dispatchMismatch state.dispatchID env.dispatchID then
      return refuse (.text ("chain " ++ quoted env.chainID ++ " dispatch mismatch"))
    proceed state

/-- The message does not carry the job of its node. -/
def jobMismatch (env : Envelope) : GoError :=
  .text ("chain " ++ quoted env.chainID ++ " node " ++ quoted env.nodeID ++ " job mismatch")

/-- `recoverCommittedChainSuccess`. -/
def recoverCommittedChainSuccess (r : Runtime) (context : DeliveryContext) (env : Envelope) :
    OptionT Engine (Option (Option GoError)) := do
  let refuse (error : GoError) : Option (Option GoError) :=
    some (some (uncommittedMutationError "recover committed chain success" error))
  let some provenance := recoveredDeliveryProvenance context | return none
  recoverChain r env refuse fun state => do
    let some index := chainNodePosition state.nodes env.nodeID
      | return refuse (missingNodeError state env.nodeID)
    match ← (chainNodeSuccessDisposition state env.nodeID).getM with
    | .error error => return refuse error
    | .ok successOwned =>
      if (← (nodeAt state.nodes index).getM).job ≠ env.job then
        return refuse (jobMismatch env)
      if ¬successOwned then return none
      let some receipts := r.store.transitionReceiptStore
        | return some (← recoverCommittedChainSuccessor env state index)
      match ← receipts.chainTransitionReceipt env.chainID env.nodeID with
      | .error error => return refuse error
      | .ok none => return some (← recoverCommittedChainSuccessor env state index)
      | .ok (some receipt) =>
        return some (← recoverChainReceipt context provenance env state index receipt)

/-- `recoverCommittedChainFailure`. -/
def recoverCommittedChainFailure (r : Runtime) (context : DeliveryContext) (env : Envelope) :
    OptionT Engine (Option (Option GoError)) := do
  let refuse (error : GoError) : Option (Option GoError) :=
    some (some (uncommittedMutationError "recover committed chain failure" error))
  if (recoveredDeliveryProvenance context).isNone then return none
  recoverChain r env refuse fun state => do
    if ¬state.failed ∨ state.completed then return none
    let some index := chainNodePosition state.nodes env.nodeID
      | return refuse (missingNodeError state env.nodeID)
    match ← (chainNodeFailureDisposition state env.nodeID).getM with
    | .error error => return refuse error
    | .ok disposition =>
      if ¬disposition.owned then return none
      if (← (nodeAt state.nodes index).getM).job ≠ env.job then
        return refuse (jobMismatch env)
      let some receipts := r.store.transitionReceiptStore | return none
      match ← receipts.chainTransitionReceipt env.chainID env.nodeID with
      | .error error => return refuse error
      | .ok none => return none
      | .ok (some receipt) =>
        if let some error := refuseFailureReceipt env state receipt then
          return refuse error
        return some (some (committedChainFailure env state))

/-! ## No index is out of range -/

theorem nodeAt_of_lt (nonneg : 0 ≤ index) (inside : index < nodes.length) :
    ∃ node, nodeAt nodes index = some node ∧
      nodes[index.toNat]? = some node ∧ Workflow.nodeAt nodes index = .ok node := by
  have found := List.getElem?_eq_getElem (l := nodes) (i := index.toNat) (by omega)
  refine ⟨_, ?_, found, ?_⟩
  · rw [nodeAt, if_neg (by omega), found]
  · rw [Workflow.nodeAt, if_neg (by omega), found]

theorem nodeOrderError_eq (nonneg : 0 ≤ state.nextIndex)
    (inside : state.nextIndex < state.nodes.length) (nodeID relation : String) :
    nodeOrderError state nodeID relation =
      some (Workflow.nodeOrderError state nodeID relation) := by
  obtain ⟨node, checked, _⟩ := nodeAt_of_lt nonneg inside
  rw [nodeOrderError, checked]
  rfl

/-- A validated state without both flags is ordered. -/
theorem ordered_of_valid (valid : validateChainState state = none)
    (unmixed : ¬(state.completed = true ∧ state.failed = true)) :
    state.Ordered := by
  unfold validateChainState at valid
  split at valid
  · cases valid
  rename_i accepted
  split at valid
  · cases valid
  split at valid
  · cases valid
  rename_i inRange agrees
  rw [not_not] at agrees
  exact ⟨accepted, by omega, by omega, by rw [agrees, decide_eq_true_eq], unmixed⟩

/-- The position of a validated state does not depend on its failure. -/
theorem unfailed_ordered (valid : validateChainState state = none) :
    ({ state with failed := false } : ChainState).Ordered :=
  ordered_of_valid valid (by simp)

theorem position_lt (found : chainNodePosition nodes nodeID = some position) :
    position < nodes.length := by
  have listed := getElem?_of_chainNodePosition found
  simpa using (List.getElem?_eq_some_iff.mp listed).1

theorem chainNodeSuccessDisposition_eq (state : ChainState) (nodeID : String) :
    chainNodeSuccessDisposition state nodeID =
      some (Workflow.chainNodeSuccessDisposition state nodeID) := by
  unfold chainNodeSuccessDisposition Workflow.chainNodeSuccessDisposition
  cases valid : validateChainState state with
  | some error => rfl
  | none =>
    have nonneg : 0 ≤ state.nextIndex := (unfailed_ordered valid).nextIndex_nonneg
    cases found : chainNodePosition state.nodes nodeID with
    | none => rfl
    | some position =>
      have inside := position_lt found
      dsimp only
      split
      · rw [nodeOrderError_eq nonneg (by omega)]
        rfl
      · rfl

/-- In range, every index is answered; out of range, none is read. -/
theorem chainNodeAdvanceDisposition_eq (state : ChainState) (nodeID : String) :
    chainNodeAdvanceDisposition state nodeID =
      some (Workflow.chainNodeAdvanceDisposition state nodeID) := by
  unfold chainNodeAdvanceDisposition Workflow.chainNodeAdvanceDisposition
  cases chainNodePosition state.nodes nodeID with
  | none => rfl
  | some position =>
    dsimp only
    by_cases outside : state.nextIndex < 0 ∨ (state.nodes.length : Int) ≤ state.nextIndex
    · simp only [if_pos outside]
      split <;> rfl
    · rw [not_or, Int.not_lt, Int.not_le] at outside
      obtain ⟨node, checked, _, plain⟩ := nodeAt_of_lt outside.1 outside.2
      simp only [nodeOrderError_eq outside.1 outside.2, checked, plain]
      split_ifs <;> rfl

theorem chainNodeFailureDisposition_eq (state : ChainState) (nodeID : String) :
    chainNodeFailureDisposition state nodeID =
      some (Workflow.chainNodeFailureDisposition state nodeID) := by
  unfold chainNodeFailureDisposition Workflow.chainNodeFailureDisposition
  cases chainNodePosition state.nodes nodeID with
  | none => rfl
  | some position =>
    dsimp only
    by_cases outside : state.nextIndex < 0 ∨ (state.nodes.length : Int) ≤ state.nextIndex
    · simp only [if_pos outside]
      split <;> rfl
    · rw [not_or, Int.not_lt, Int.not_le] at outside
      simp only [nodeOrderError_eq outside.1 outside.2]
      split_ifs <;> rfl

/-- A validated chain that waits for a node has it. -/
theorem recoverCommittedChainSuccessor_eq
    (valid : validateChainState state = none) (env : Envelope) (position : Nat) :
    recoverCommittedChainSuccessor env state position =
      OptionT.lift (Workflow.recoverCommittedChainSuccessor env state position) := by
  have ordered := unfailed_ordered valid
  unfold recoverCommittedChainSuccessor Workflow.recoverCommittedChainSuccessor
  split
  · rfl
  · rename_i going
    have running : state.completed = false := by
      rw [← Bool.not_eq_true]
      exact fun completed => going (.inl completed)
    obtain ⟨node, checked, plain, _⟩ :=
      nodeAt_of_lt ordered.nextIndex_nonneg (ordered.nextIndex_lt running)
    rw [checked, plain]
    rfl

theorem recoverChainReceipt_eq (valid : validateChainState state = none) (context : DeliveryContext)
    (provenance : DeliveryProvenance) (env : Envelope) (position : Nat)
    (receipt : TransitionReceipt) :
    recoverChainReceipt context provenance env state position receipt =
      OptionT.lift (Workflow.recoverChainReceipt context provenance env state
        position receipt) := by
  have successor := recoverCommittedChainSuccessor_eq valid env position
  unfold recoverChainReceipt Workflow.recoverChainReceipt reportRecoveredChainSuccess
  cases validateRecoveredTransitionReceipt env receipt false with
  | some error =>
    dsimp only
    split_ifs <;> rfl
  | none =>
    dsimp only
    split_ifs <;> first
      | rfl
      | exact successor
      | refine Prog.lift_bind_eq fun observed => ?_
        cases recoveredStoredJobSuccess env receipt observed with
        | error error => rfl
        | ok outcome =>
          refine Prog.lift_bind_eq fun _ => Prog.lift_bind_eq fun _ => ?_
          first | rfl | exact successor

@[simp] theorem getM_some_bind (value : α) (next : α -> OptionT Engine κ) :
    ((some value).getM >>= next) = next value := rfl

/-- A found node is read. -/
theorem nodeAt_of_position (found : chainNodePosition nodes nodeID = some position) :
    ∃ node, nodeAt nodes position = some node ∧ nodes[position]? = some node := by
  obtain ⟨node, checked, plain, _⟩ := nodeAt_of_lt (Int.natCast_nonneg position)
    (Int.ofNat_lt.mpr (position_lt found))
  exact ⟨node, checked, plain⟩

theorem recoverCommittedChainSuccess_eq (r : Runtime) (context : DeliveryContext) (env : Envelope) :
    recoverCommittedChainSuccess r context env =
      OptionT.lift (Workflow.recoverCommittedChainSuccess r context env) := by
  unfold recoverCommittedChainSuccess Workflow.recoverCommittedChainSuccess recoverChain jobMismatch
  cases recoveredDeliveryProvenance context with
  | none => rfl
  | some provenance =>
  refine Prog.lift_bind_eq fun answer => ?_
  cases answer with
  | error error => rfl
  | ok state =>
  dsimp only
  split_ifs
  · rfl
  · rfl
  cases found : chainNodePosition state.nodes env.nodeID with
  | none => rfl
  | some position =>
  rw [chainNodeSuccessDisposition_eq]
  cases disposed : Workflow.chainNodeSuccessDisposition state env.nodeID with
  | error error => rfl
  | ok owned =>
  have valid : validateChainState state = none := by
    unfold Workflow.chainNodeSuccessDisposition at disposed
    split at disposed
    · cases disposed
    · assumption
  have successor := recoverCommittedChainSuccessor_eq valid env position
  obtain ⟨node, checked, plain⟩ := nodeAt_of_position found
  simp only [checked, plain, successor, recoverChainReceipt_eq valid,
    getM_some_bind, Option.map_some, ne_eq, Option.some.injEq]
  split_ifs
  · cases r.store.transitionReceiptStore with
    | none => exact Prog.lift_bind_eq fun _ => rfl
    | some receipts =>
      refine Prog.lift_bind_eq fun answer => ?_
      rcases answer with error | _ | receipt
      · rfl
      · exact Prog.lift_bind_eq fun _ => rfl
      · exact Prog.lift_bind_eq fun _ => rfl
  · rfl
  · rfl

theorem recoverCommittedChainFailure_eq (r : Runtime) (context : DeliveryContext) (env : Envelope) :
    recoverCommittedChainFailure r context env =
      OptionT.lift (Workflow.recoverCommittedChainFailure r context env) := by
  unfold recoverCommittedChainFailure Workflow.recoverCommittedChainFailure recoverChain jobMismatch
  cases recoveredDeliveryProvenance context with
  | none => rfl
  | some provenance =>
  refine Prog.lift_bind_eq fun answer => ?_
  cases answer with
  | error error => rfl
  | ok state =>
  dsimp only
  split_ifs
  · rfl
  · rfl
  · rfl
  cases found : chainNodePosition state.nodes env.nodeID with
  | none => rfl
  | some position =>
  rw [chainNodeFailureDisposition_eq]
  cases Workflow.chainNodeFailureDisposition state env.nodeID with
  | error error => rfl
  | ok disposition =>
  obtain ⟨node, checked, plain⟩ := nodeAt_of_position found
  simp only [checked, plain, getM_some_bind, Option.map_some, ne_eq, Option.some.injEq]
  split_ifs
  · cases r.store.transitionReceiptStore with
    | none => rfl
    | some receipts =>
      refine Prog.lift_bind_eq fun answer => ?_
      rcases answer with error | _ | receipt
      · rfl
      · rfl
      · dsimp only
        cases refuseFailureReceipt env state receipt <;> rfl
  · rfl
  · rfl

/-- Whatever state a store returns, no decision about a node and no recovery
reads a slice out of range; and on a validated state that is not both completed
and failed, success and failure are claimable together and never both own a
node. -/
theorem chain_decisions_never_panic :
    (∀ state nodeID, (chainNodeSuccessDisposition state nodeID).isSome ∧
      (chainNodeAdvanceDisposition state nodeID).isSome ∧
      (chainNodeFailureDisposition state nodeID).isSome) ∧
    (∀ r context env, (recoverCommittedChainSuccess r context env).run =
        some <$> Workflow.recoverCommittedChainSuccess r context env ∧
      (recoverCommittedChainFailure r context env).run =
        some <$> Workflow.recoverCommittedChainFailure r context env) ∧
    ∀ state nodeID, validateChainState state = none ->
      ¬(state.completed = true ∧ state.failed = true) ->
      ((∃ success, chainNodeAdvanceDisposition state nodeID = some (.ok success) ∧
          success.claimable = true) ↔
        ∃ failure, chainNodeFailureDisposition state nodeID = some (.ok failure) ∧
          failure.claimable = true) ∧
      ¬(chainNodeSuccessDisposition state nodeID = some (.ok true) ∧
        ∃ failure, chainNodeFailureDisposition state nodeID = some (.ok failure) ∧
          failure.owned = true) := by
  refine ⟨fun state nodeID => ?_, fun r context env =>
    ⟨congrArg OptionT.run (recoverCommittedChainSuccess_eq r context env),
      congrArg OptionT.run (recoverCommittedChainFailure_eq r context env)⟩, ?_⟩
  · simp only [chainNodeSuccessDisposition_eq, chainNodeAdvanceDisposition_eq,
      chainNodeFailureDisposition_eq, Option.isSome_some, and_self]
  · intro state nodeID valid unmixed
    have ordered := ordered_of_valid valid unmixed
    simp only [chainNodeSuccessDisposition_eq, chainNodeAdvanceDisposition_eq,
      chainNodeFailureDisposition_eq, Option.some.injEq]
    refine ⟨⟨?_, ?_⟩, ?_⟩
    · rintro ⟨success, disposed, claimable⟩
      obtain ⟨running, position, found, here⟩ := isCurrent_of_advance_claimable disposed claimable
      exact ⟨_, ordered.chainNodeFailureDisposition_eq found (Int.le_of_eq here),
        by simp [running, here]⟩
    · rintro ⟨failure, disposed, claimable⟩
      obtain ⟨running, position, found, here⟩ := isCurrent_of_failure_claimable disposed claimable
      exact ⟨_, ordered.chainNodeAdvanceDisposition_eq found (Int.le_of_eq here),
        by simp [running, here]⟩
    · rintro ⟨succeeded, failure, disposed, owned⟩
      cases found : chainNodePosition state.nodes nodeID with
      | none => simp [Workflow.chainNodeSuccessDisposition, valid, found] at succeeded
      | some position =>
        simp only [Workflow.chainNodeSuccessDisposition, valid, found] at succeeded
        split at succeeded
        · cases succeeded
        · have passed : (position : Int) < state.nextIndex := by simpa using succeeded
          rw [ordered.chainNodeFailureDisposition_eq found (Int.le_of_lt passed)] at disposed
          cases disposed
          simp [Int.ne_of_lt passed] at owned

/-- The first node of a new chain can be claimed for success and for failure. -/
theorem chain_decisions_never_panic_two_nodes :
    (∃ failure, chainNodeFailureDisposition twoNodeState "first" = some (.ok failure) ∧
        failure.claimable = true) ∧
      ¬(chainNodeSuccessDisposition twoNodeState "first" = some (.ok true) ∧
        ∃ failure, chainNodeFailureDisposition twoNodeState "first" =
          some (.ok failure) ∧ failure.owned = true) := by
  obtain ⟨together, apart⟩ := chain_decisions_never_panic.2.2 twoNodeState "first"
    (by decide +kernel) (by decide)
  exact ⟨together.mp ⟨_, rfl, rfl⟩, apart⟩

end JobQueue.Workflow.Checked
