import JobQueue.Workflow.Store.Memory
import Mathlib.Data.List.Nodup

/-!
# What one chain transition can do

An ordered chain state is one whose flags agree with its position. On such a
state the dispositions are decided by comparing the node's position with the
next index, and each transition of the memory store either leaves the store as
it was or makes exactly one change: one success at the next index, or one
failure there. Every later argument about chains uses these inversions.
-/

namespace JobQueue.Workflow

/-- Success or failure of a node, as a store can claim it. -/
inductive ChainTransition
  | success (nodeID : String)
  | failure (nodeID : String)
  deriving DecidableEq, Repr

namespace ChainState

variable (state : ChainState)

/-- A chain that accepts no further transition. -/
def terminal : Bool :=
  state.completed || state.failed

/-- Flags and position agree, over an unambiguous node list. -/
structure Ordered : Prop where
  accepted :
    validateChainRecord
      { chainID := state.chainID, dispatchID := "", queue := "",
        nodes := state.nodes, createdAt := 0 } = none
  nextIndex_nonneg : 0 ≤ state.nextIndex
  nextIndex_le : state.nextIndex ≤ state.nodes.length
  completed_iff : state.completed = true ↔ state.nextIndex = state.nodes.length
  not_both : ¬(state.completed = true ∧ state.failed = true)

/-- The state after the success of the current node. -/
def advance (now : Time) : ChainState :=
  { state with
    nextIndex := state.nextIndex + 1
    completed :=
      state.completed || decide ((state.nodes.length : Int) ≤ state.nextIndex + 1)
    updatedAt := now }

/-- The state after the failure of the current node. -/
def fail (cause : Option GoError) (now : Time) : ChainState :=
  { state with
    failed := true
    failure := MemoryStore.failureText state.failure cause
    updatedAt := now }

/-- The node the chain is waiting for. -/
def IsCurrent (nodeID : String) : Prop :=
  state.terminal = false ∧ ∃ index : Nat, chainNodePosition state.nodes nodeID = some index ∧
      (index : Int) = state.nextIndex

end ChainState

/-! ## Node positions -/

/-- A found position holds a node with the identifier searched for. -/
theorem getElem?_of_chainNodePosition (found : chainNodePosition nodes nodeID = some index) :
    (nodes.map (·.nodeID))[index]? = some nodeID := by
  rw [chainNodePosition, List.findIdx?_eq_some_iff_getElem] at found
  obtain ⟨inRange, same, _⟩ := found
  simp only [beq_iff_eq] at same
  simp [List.getElem?_map, List.getElem?_eq_getElem inRange, same]

/-- With distinct identifiers, the position of a node is where it is stored. -/
theorem chainNodePosition_of_getElem? (distinct : (nodes.map (·.nodeID)).Nodup)
    (held : (nodes.map (·.nodeID))[index]? = some nodeID) :
    chainNodePosition nodes nodeID = some index := by
  rw [chainNodePosition, List.findIdx?_eq_some_iff_getElem]
  obtain ⟨inRange, same⟩ := List.getElem?_eq_some_iff.mp held
  rw [List.length_map] at inRange
  rw [List.getElem_map] at same
  refine ⟨inRange, by simp [same], ?_⟩
  intro earlier before
  simp only [beq_iff_eq]
  intro equal
  have earlierRange : earlier < (nodes.map (·.nodeID)).length := by
    rw [List.length_map]
    omega
  have indexRange : index < (nodes.map (·.nodeID)).length := by
    rw [List.length_map]
    exact inRange
  have sameEntry : (nodes.map (·.nodeID))[earlier] = (nodes.map (·.nodeID))[index] := by
    rw [List.getElem_map, List.getElem_map, equal, same]
  have := (List.Nodup.getElem_inj_iff distinct).mp sameEntry
  omega

/-! ## Dispositions of ordered states -/

/-- Success is claimed only for the node that the chain waits for. -/
theorem isCurrent_of_advance_claimable
    (disposed : chainNodeAdvanceDisposition state nodeID = .ok disposition)
    (claimable : disposition.claimable = true) : state.IsCurrent nodeID := by
  unfold chainNodeAdvanceDisposition at disposed
  split at disposed
  · cases disposed
  rename_i index found
  split at disposed
  · cases disposed
    cases claimable
  rename_i incomplete
  split at disposed
  · cases disposed
  split at disposed
  · split at disposed
    · cases disposed
    · cases disposed
      cases claimable
  rename_i unfailed
  split at disposed
  · cases disposed
  split at disposed
  · rename_i same
    exact ⟨by simp [ChainState.terminal, incomplete, unfailed], index, found, same⟩
  · split at disposed
    · cases disposed
    · cases disposed
      cases claimable

/-- Failure is claimed only for the node that the chain waits for. -/
theorem isCurrent_of_failure_claimable
    (disposed : chainNodeFailureDisposition state nodeID = .ok disposition)
    (claimable : disposition.claimable = true) : state.IsCurrent nodeID := by
  unfold chainNodeFailureDisposition at disposed
  split at disposed
  · cases disposed
  rename_i index found
  split at disposed
  · cases disposed
    cases claimable
  rename_i incomplete
  split at disposed
  · cases disposed
  split at disposed
  · split at disposed
    · cases disposed
    · cases disposed
      cases claimable
  rename_i unfailed
  split at disposed
  · cases disposed
    cases claimable
  split at disposed
  · cases disposed
  · exact ⟨by simp [ChainState.terminal, incomplete, unfailed], index, found, by omega⟩

namespace ChainState
namespace Ordered

variable {state : ChainState} (ordered : state.Ordered)

include ordered

theorem nodup : (state.nodes.map (·.nodeID)).Nodup :=
  (validateChainRecord_eq_none ordered.accepted).2.2

theorem nodes_ne_nil : state.nodes ≠ [] :=
  (validateChainRecord_eq_none ordered.accepted).2.1

/-- An ordered state passes the validation made before recovery. -/
theorem validateChainState_eq_none : validateChainState state = none := by
  have nonneg := ordered.nextIndex_nonneg
  have bounded := ordered.nextIndex_le
  have agrees : state.completed = decide (state.nextIndex = (state.nodes.length : Int)) := by
    rw [Bool.eq_iff_iff, ordered.completed_iff, decide_eq_true_iff]
  have inRange : ¬(state.nextIndex < 0 ∨ (state.nodes.length : Int) < state.nextIndex) := by omega
  simp only [validateChainState, ordered.accepted, if_neg inRange]
  rw [if_neg (not_not.mpr agrees)]

/-- An unfinished chain is waiting for one of its nodes. -/
theorem nextIndex_lt (running : state.completed = false) :
    state.nextIndex < state.nodes.length := by
  have notEnd : state.nextIndex ≠ state.nodes.length := by
    intro atEnd
    have := ordered.completed_iff.mpr atEnd
    simp [running] at this
  have := ordered.nextIndex_le
  omega

/-- Success is decided by comparing positions. -/
theorem chainNodeSuccessDisposition_eq (found : chainNodePosition state.nodes nodeID = some index)
    (notAhead : (index : Int) ≤ state.nextIndex) :
    chainNodeSuccessDisposition state nodeID = .ok (decide ((index : Int) < state.nextIndex)) := by
  simp only [chainNodeSuccessDisposition, ordered.validateChainState_eq_none, found]
  rw [if_neg (by omega)]

/-- Success of a node that is ahead of the chain is refused. -/
theorem chainNodeSuccessDisposition_error
    (unreachable : ∀ index, chainNodePosition state.nodes nodeID = some index ->
      state.nextIndex < index) :
    ∃ error, chainNodeSuccessDisposition state nodeID = .error error := by
  simp only [chainNodeSuccessDisposition, ordered.validateChainState_eq_none]
  cases found : chainNodePosition state.nodes nodeID with
  | none => exact ⟨_, rfl⟩
  | some index =>
    simp only
    rw [if_pos (unreachable index found)]
    exact ⟨_, rfl⟩

/-- What advancing does at a position the chain has reached. -/
theorem chainNodeAdvanceDisposition_eq (found : chainNodePosition state.nodes nodeID = some index)
    (notAhead : (index : Int) ≤ state.nextIndex) :
    chainNodeAdvanceDisposition state nodeID =
      .ok (if state.terminal then { done := true }
        else if (index : Int) = state.nextIndex then { claimable := true }
        else { next := state.nodes[state.nextIndex.toNat]? }) := by
  have nonneg := ordered.nextIndex_nonneg
  simp only [chainNodeAdvanceDisposition, found]
  cases completedValue : state.completed with
  | true => simp [terminal, completedValue]
  | false =>
    have inRange := ordered.nextIndex_lt completedValue
    rw [if_neg (by simp), if_neg (by omega)]
    cases failedValue : state.failed with
    | true =>
      rw [if_pos rfl, if_neg (by omega)]
      simp [terminal, failedValue]
    | false =>
      rw [if_neg (by simp), if_neg (by omega)]
      by_cases atCurrent : (index : Int) = state.nextIndex
      · simp [terminal, completedValue, failedValue, atCurrent]
      · have position : state.nextIndex.toNat < state.nodes.length := by omega
        simp only [if_neg atCurrent, nodeAt, if_neg (show ¬state.nextIndex < 0 by omega),
          List.getElem?_eq_getElem position, terminal, completedValue,
          failedValue, Bool.or_self, Bool.false_eq_true, if_false]

/-- What failing does at a position the chain has reached. -/
theorem chainNodeFailureDisposition_eq (found : chainNodePosition state.nodes nodeID = some index)
    (notAhead : (index : Int) ≤ state.nextIndex) :
    chainNodeFailureDisposition state nodeID = .ok
        { owned := state.failed && decide ((index : Int) = state.nextIndex)
          claimable :=
            !state.terminal && decide ((index : Int) = state.nextIndex) } := by
  have nonneg := ordered.nextIndex_nonneg
  simp only [chainNodeFailureDisposition, found]
  cases completedValue : state.completed with
  | true =>
    have notFailed : state.failed = false := by
      cases failedValue : state.failed with
      | false => rfl
      | true => exact absurd ⟨completedValue, failedValue⟩ ordered.not_both
    simp [terminal, completedValue, notFailed]
  | false =>
    have inRange := ordered.nextIndex_lt completedValue
    rw [if_neg (by simp), if_neg (by omega)]
    cases failedValue : state.failed with
    | true =>
      rw [if_pos rfl, if_neg (by omega)]
      simp [terminal, failedValue]
    | false =>
      rw [if_neg (by simp)]
      by_cases before : (index : Int) < state.nextIndex
      · rw [if_pos before]
        have different : (index : Int) ≠ state.nextIndex := by omega
        simp [different]
      · have atCurrent : (index : Int) = state.nextIndex := by omega
        rw [if_neg before, if_neg (by omega)]
        simp [terminal, completedValue, failedValue, atCurrent]

/-- Failure of a node that is ahead of an unfinished chain is refused. -/
theorem chainNodeFailureDisposition_error (running : state.completed = false)
    (unreachable : ∀ index, chainNodePosition state.nodes nodeID = some index ->
      state.nextIndex < index) :
    ∃ error, chainNodeFailureDisposition state nodeID = .error error := by
  have nonneg := ordered.nextIndex_nonneg
  have inRange := ordered.nextIndex_lt running
  simp only [chainNodeFailureDisposition]
  cases found : chainNodePosition state.nodes nodeID with
  | none => exact ⟨_, rfl⟩
  | some index =>
    have ahead := unreachable index found
    simp only [running]
    rw [if_neg (by simp), if_neg (by omega)]
    cases state.failed with
    | true => simp [ahead]
    | false =>
      have notBefore : ¬(index : Int) < state.nextIndex := by omega
      simp [ahead, notBefore]

/-! ## Transitions keep states ordered -/

/-- Success of the current node keeps the chain ordered. -/
theorem advance (running : state.terminal = false) : (state.advance now).Ordered := by
  simp only [terminal, Bool.or_eq_false_iff] at running
  have nonneg := ordered.nextIndex_nonneg
  have inRange := ordered.nextIndex_lt running.1
  refine ⟨ordered.accepted, ?_, ?_, ?_, ?_⟩
  · show 0 ≤ state.nextIndex + 1
    omega
  · show state.nextIndex + 1 ≤ state.nodes.length
    omega
  · simp only [ChainState.advance, running.1, Bool.false_or, decide_eq_true_iff]
    omega
  · simp [ChainState.advance, running.2]

/-- Failure of the current node keeps the chain ordered. -/
theorem fail (running : state.terminal = false) : (state.fail cause now).Ordered := by
  simp only [terminal, Bool.or_eq_false_iff] at running
  refine ⟨ordered.accepted, ordered.nextIndex_nonneg, ordered.nextIndex_le,
    ordered.completed_iff, ?_⟩
  simp [ChainState.fail, running.1]

end Ordered
end ChainState

/-! ## Frames of the store updates -/

namespace MemoryStore

variable (store : MemoryStore)

@[simp] theorem setChain_chains :
    (store.setChain chainID chain).chains = Function.update store.chains chainID (some chain) := rfl

@[simp] theorem setChain_batch : (store.setChain chainID chain).batch = store.batch := rfl

@[simp] theorem deleteTransitionReceipts_chains :
    (store.deleteTransitionReceipts kind workflowID).chains = store.chains := rfl

@[simp] theorem deleteTransitionReceipts_batch :
    (store.deleteTransitionReceipts kind workflowID).batch = store.batch := rfl

section RecordedReceipt

variable (kind : WorkflowKind) (workflowID workflowDispatchID : String)
  (workflowCreatedAt : Time) (memberID : String) (outcome : BatchJobOutcome)
  (claim : TransitionClaim) (aggregateCompleted aggregateCancelled : Bool) (now : Time)

@[simp] theorem recordTransitionReceipt_chains :
    (store.recordTransitionReceipt kind workflowID workflowDispatchID
      workflowCreatedAt memberID outcome claim aggregateCompleted
      aggregateCancelled now).2.chains = store.chains := by
  unfold recordTransitionReceipt
  split <;> rfl

@[simp] theorem recordTransitionReceipt_batch :
    (store.recordTransitionReceipt kind workflowID workflowDispatchID
      workflowCreatedAt memberID outcome claim aggregateCompleted
      aggregateCancelled now).2.batch = store.batch := by
  unfold recordTransitionReceipt
  split <;> rfl

end RecordedReceipt

/-! ## Inversion of the transitions -/

/-- The store after the success of the current node is claimed. -/
def claimSuccess (chain : MemoryChain)
    (chainID nodeID : String) (claim : TransitionClaim) (now : Time) :
    Option TransitionReceipt × MemoryStore :=
  (store.setChain chainID
    { state := chain.state.advance now
      completedNode := Function.update chain.completedNode nodeID true }
  ).recordTransitionReceipt .chain chainID chain.state.dispatchID
    chain.state.createdAt nodeID .succeeded claim
    (chain.state.advance now).completed false now

/-- The store after the failure of the current node is claimed. -/
def claimFailure (chain : MemoryChain) (chainID nodeID : String)
    (cause : Option GoError) (claim : TransitionClaim) (now : Time) :
    Option TransitionReceipt × MemoryStore :=
  (store.setChain chainID { chain with state := chain.state.fail cause now }
  ).recordTransitionReceipt .chain chainID chain.state.dispatchID
    chain.state.createdAt nodeID .failed claim false false now

/-- Everything `advanceChainOutcome` can do to a stored ordered chain. -/
inductive AdvanceOutcome (store : MemoryStore) (chain : MemoryChain)
    (chainID nodeID : String) (claim : TransitionClaim) (now : Time) :
    Except GoError ChainAdvanceResult × MemoryStore -> Prop
  | refused (error : GoError) :
      AdvanceOutcome store chain chainID nodeID claim now (.error error, store)
  | foreign (mismatch :
        dispatchMismatch chain.state.dispatchID claim.dispatchID = true) :
      AdvanceOutcome store chain chainID nodeID claim now (.ok { state := chain.state }, store)
  | replayed (index : Nat) (found : chainNodePosition chain.state.nodes nodeID = some index)
      (reached : (index : Int) ≤ chain.state.nextIndex)
      (settled : chain.state.terminal = true ∨ (index : Int) < chain.state.nextIndex) :
      AdvanceOutcome store chain chainID nodeID claim now (.ok
          { state := chain.state
            next :=
              if chain.state.terminal then none
              else chain.state.nodes[chain.state.nextIndex.toNat]?
            done := chain.state.terminal
            successOwned := decide ((index : Int) < chain.state.nextIndex)
            receipt := store.transitionReceipt .chain chainID nodeID },
          store)
  | claimed (current : chain.state.IsCurrent nodeID) (matching :
        dispatchMismatch chain.state.dispatchID claim.dispatchID = false) :
      AdvanceOutcome store chain chainID nodeID claim now (.ok
          { state := chain.state.advance now
            next :=
              if (chain.state.advance now).completed then none
              else chain.state.nodes[(chain.state.nextIndex + 1).toNat]?
            done := (chain.state.advance now).completed
            successOwned := true
            claimedNow := true
            receipt :=
              (store.claimSuccess chain chainID nodeID claim now).1 },
          (store.claimSuccess chain chainID nodeID claim now).2)

variable {store}

/-- Advancing an ordered chain does one of the four listed things. -/
theorem advanceChainOutcome_cases (stored : store.chains chainID = some chain)
    (ordered : chain.state.Ordered) (nodeID : String) (claim : TransitionClaim) (now : Time) :
    AdvanceOutcome store chain chainID nodeID claim now
      (store.advanceChainOutcome chainID nodeID claim now) := by
  by_cases reachable : ∃ index, chainNodePosition chain.state.nodes nodeID = some index ∧
        (index : Int) ≤ chain.state.nextIndex
  · obtain ⟨index, found, reached⟩ := reachable
    have success := ordered.chainNodeSuccessDisposition_eq found reached
    have disposition := ordered.chainNodeAdvanceDisposition_eq found reached
    cases mismatch : dispatchMismatch chain.state.dispatchID claim.dispatchID with
    | true =>
      simp only [advanceChainOutcome, stored, success, mismatch]
      generalize chainNodeAdvanceDisposition chain.state nodeID = answer at disposition
      subst disposition
      generalize (if chain.state.terminal = true then _ else _ : AdvanceDisposition) = answer
      cases claimable : answer.claimable with
      | false =>
        simp only [claimable, if_true]
        exact .foreign mismatch
      | true =>
        simp only [claimable, Bool.true_eq_false, if_false, if_true]
        exact .refused _
    | false =>
      simp only [advanceChainOutcome, stored, success, disposition, mismatch]
      cases ended : chain.state.terminal with
      | true =>
        have outcome := @AdvanceOutcome.replayed store chain chainID
          nodeID claim now index found reached (.inl ended)
        simpa [ended] using outcome
      | false =>
        by_cases atCurrent : (index : Int) = chain.state.nextIndex
        · have running : chain.state.completed = false := by
            simp only [ChainState.terminal, Bool.or_eq_false_iff] at ended
            exact ended.1
          have outcome := @AdvanceOutcome.claimed store chain chainID
            nodeID claim now ⟨ended, index, found, atCurrent⟩ mismatch
          simp only [claimSuccess, ChainState.advance, running, Bool.false_or] at outcome
          by_cases atEnd : (chain.state.nodes.length : Int) ≤ chain.state.nextIndex + 1
          · simpa [atCurrent, atEnd] using outcome
          · simpa [atCurrent, atEnd, running] using outcome
        · have before : (index : Int) < chain.state.nextIndex := by omega
          have outcome := @AdvanceOutcome.replayed store chain chainID
            nodeID claim now index found reached (.inr before)
          simpa [ended, atCurrent] using outcome
  · have ahead : ∀ index, chainNodePosition chain.state.nodes nodeID = some index ->
          chain.state.nextIndex < index := by
      intro index found
      by_contra notAhead
      exact reachable ⟨index, found, by omega⟩
    obtain ⟨error, refused⟩ := ordered.chainNodeSuccessDisposition_error ahead
    simp only [advanceChainOutcome, stored, refused]
    exact .refused error

/-- Everything `failChainOutcome` can do to a stored ordered chain. -/
inductive FailureOutcome (store : MemoryStore) (chain : MemoryChain) (chainID nodeID : String)
    (cause : Option GoError) (claim : TransitionClaim) (now : Time) :
    Except GoError ChainFailureResult × MemoryStore -> Prop
  | refused (error : GoError) :
      FailureOutcome store chain chainID nodeID cause claim now (.error error, store)
  | foreign (mismatch :
        dispatchMismatch chain.state.dispatchID claim.dispatchID = true) :
      FailureOutcome store chain chainID nodeID cause claim now
        (.ok { state := chain.state }, store)
  | completed (done : chain.state.completed = true) :
      FailureOutcome store chain chainID nodeID cause claim now (.ok
          { state := chain.state, receipt := store.transitionReceipt .chain chainID nodeID },
          store)
  | replayed (index : Nat) (found : chainNodePosition chain.state.nodes nodeID = some index)
      (reached : (index : Int) ≤ chain.state.nextIndex)
      (settled : chain.state.terminal = true ∨ (index : Int) < chain.state.nextIndex) :
      FailureOutcome store chain chainID nodeID cause claim now (.ok
          { state := chain.state
            owned := chain.state.failed && decide ((index : Int) = chain.state.nextIndex)
            receipt := store.transitionReceipt .chain chainID nodeID },
          store)
  | claimed (current : chain.state.IsCurrent nodeID) (matching :
        dispatchMismatch chain.state.dispatchID claim.dispatchID = false) :
      FailureOutcome store chain chainID nodeID cause claim now (.ok
          { state := chain.state.fail cause now
            owned := true
            claimedNow := true
            receipt :=
              (store.claimFailure chain chainID nodeID cause claim now).1 },
          (store.claimFailure chain chainID nodeID cause claim now).2)

/-- Failing an ordered chain does one of the five listed things. -/
theorem failChainOutcome_cases (stored : store.chains chainID = some chain)
    (ordered : chain.state.Ordered) (nodeID : String) (cause : Option GoError)
    (claim : TransitionClaim) (now : Time) :
    FailureOutcome store chain chainID nodeID cause claim now
      (store.failChainOutcome chainID nodeID cause claim now) := by
  by_cases reachable : ∃ index, chainNodePosition chain.state.nodes nodeID = some index ∧
        (index : Int) ≤ chain.state.nextIndex
  · obtain ⟨index, found, reached⟩ := reachable
    have disposition := ordered.chainNodeFailureDisposition_eq found reached
    simp only [failChainOutcome, stored, disposition]
    cases mismatch : dispatchMismatch chain.state.dispatchID claim.dispatchID with
    | true =>
      generalize (!chain.state.terminal &&
        decide ((index : Int) = chain.state.nextIndex)) = claimable
      cases claimable
      · exact .foreign mismatch
      · exact .refused _
    | false =>
      by_cases current : chain.state.terminal = false ∧ (index : Int) = chain.state.nextIndex
      · have outcome := @FailureOutcome.claimed store chain chainID nodeID
          cause claim now ⟨current.1, index, found, current.2⟩ mismatch
        simpa [current.1, current.2, claimFailure, ChainState.fail] using outcome
      · have settled : chain.state.terminal = true ∨ (index : Int) < chain.state.nextIndex := by
          cases ended : chain.state.terminal with
          | true => exact .inl rfl
          | false =>
            right
            have different : (index : Int) ≠ chain.state.nextIndex :=
              fun same => current ⟨ended, same⟩
            omega
        have unclaimable : (!chain.state.terminal &&
              decide ((index : Int) = chain.state.nextIndex)) = false := by
          rcases settled with ended | before
          · simp [ended]
          · have different : (index : Int) ≠ chain.state.nextIndex := by omega
            simp [different]
        have outcome := @FailureOutcome.replayed store chain chainID nodeID
          cause claim now index found reached settled
        simpa [unclaimable] using outcome
  · have ahead : ∀ index, chainNodePosition chain.state.nodes nodeID = some index ->
          chain.state.nextIndex < index := by
      intro index found
      by_contra notAhead
      exact reachable ⟨index, found, by omega⟩
    cases running : chain.state.completed with
    | false =>
      obtain ⟨error, refused⟩ := ordered.chainNodeFailureDisposition_error running ahead
      simp only [failChainOutcome, stored, refused]
      exact .refused error
    | true =>
      cases found : chainNodePosition chain.state.nodes nodeID with
      | none =>
        simp only [failChainOutcome, stored, chainNodeFailureDisposition, found]
        exact .refused _
      | some index =>
        simp only [failChainOutcome, stored, chainNodeFailureDisposition, found, running]
        cases mismatch : dispatchMismatch chain.state.dispatchID claim.dispatchID with
        | true => exact .foreign mismatch
        | false => exact .completed running

/-- `failChain` fails a stored unfinished chain and changes nothing else. -/
theorem failChain_cases (stored : store.chains chainID = some chain) (cause : Option GoError)
    (now : Time) :
    (chain.state.terminal = false ∧ store.failChain chainID cause now =
        (none, store.setChain chainID { chain with state := chain.state.fail cause now })) ∨
    (chain.state.terminal = true ∧ store.failChain chainID cause now = (none, store)) := by
  simp only [failChain, stored, ChainState.terminal, ChainState.fail]
  cases chain.state.completed <;> cases chain.state.failed <;> simp

/-! Chain calls leave the batches alone. -/

variable (store)

@[simp] theorem createChain_batch : (store.createChain record now).2.batch = store.batch := by
  unfold createChain
  split <;> rfl

@[simp] theorem failChain_batch : (store.failChain chainID cause now).2.batch = store.batch := by
  unfold failChain
  split
  · rfl
  · split <;> rfl

@[simp] theorem advanceChainOutcome_batch :
    (store.advanceChainOutcome chainID nodeID claim now).2.batch = store.batch := by
  unfold advanceChainOutcome
  split
  · rfl
  split
  · rfl
  split
  · rfl
  split
  · split <;> rfl
  split
  · rfl
  dsimp only
  split <;> rw [recordTransitionReceipt_batch, setChain_batch]

@[simp] theorem failChainOutcome_batch :
    (store.failChainOutcome chainID nodeID cause claim now).2.batch = store.batch := by
  unfold failChainOutcome
  split
  · rfl
  split
  · rfl
  split
  · split <;> rfl
  split
  · rfl
  · rw [recordTransitionReceipt_batch, setChain_batch]

end MemoryStore

end JobQueue.Workflow
