import JobQueue.Workflow.Runs.ChainOrder

/-!
# What is decided about a workflow stays decided

A chain ends once, and a batch is completed and cancelled at most once each,
whichever programs race, fail, are delivered again or learn of no commit. The
argument is the same for both built-in stores: a transition is committed only
while its flag is down, a flag stays up as long as the workflow is stored, and
an identifier that the history mentions is never given to a new workflow.
-/

namespace JobQueue.Workflow

open Interleaving

/-- A question about a workflow that its store answers for good. -/
inductive Decision
  | chainEnded (chainID : String)
  | batchCompleted (batchID : String)
  | batchCancelled (batchID : String)
  deriving DecidableEq, Repr

/-- The question that a transition answers. -/
def Transition.decision : Transition -> Decision
  | .chainCompleted chainID => .chainEnded chainID
  | .chainFailed chainID => .chainEnded chainID
  | .batchCompleted batchID => .batchCompleted batchID
  | .batchCancelled batchID _ => .batchCancelled batchID

/-- The flag of a stored workflow. -/
def Decision.made (backend : Backend) : Decision -> Option Bool
  | .chainEnded chainID => (backend.chain chainID).map ChainState.terminal
  | .batchCompleted batchID => (backend.summary batchID).map (·.completed)
  | .batchCancelled batchID => (backend.summary batchID).map (·.cancelled)

/-- Decisions committed so far, newest first. -/
def World.decisions (w : World) : List Decision :=
  w.transitions.map fun entry => entry.2.decision

/-- No decision was committed twice or taken back. -/
structure World.Settled (w : World) : Prop where
  once : w.decisions.Nodup
  made : ∀ decision ∈ w.decisions, decision.made w.backend ≠ some false

/-! ## Operations -/

/-- A chain ends in one transition, while it is running. -/
theorem ChainEffect.decides (effect : ChainEffect operation chainID before after) :
    ((chainTransitions chainID before after).map Transition.decision).Nodup ∧
    ∀ transition ∈ chainTransitions chainID before after,
      transition.decision = .chainEnded chainID ∧ before.map ChainState.terminal = some false ∧
      after.map ChainState.terminal = some true := by
  rcases effect with same | ⟨_, changed⟩ | ⟨_, state, stored, running⟩
  · simp [same]
  · cases changed with
    | same => simp
    | @advanced _ state running unfailed =>
      have flags := Bool.or_eq_false_iff.mp running
      cases completed : state.completed <;> simp [chainTransitions, flags, unfailed, completed,
        ChainState.terminal, Transition.decision]
    | failed running failed incomplete =>
      have flags := Bool.or_eq_false_iff.mp running
      simp [chainTransitions, flags, failed, incomplete, ChainState.terminal, Transition.decision]
  · have flags := Bool.or_eq_false_iff.mp running
    cases before <;> simp [stored, chainTransitions, flags]

/-- A batch is completed or cancelled while its flag is down. -/
theorem summaryTransitions_decides (before after : Option BatchSummary) :
    ((summaryTransitions batchID member before after).map Transition.decision).Nodup ∧
    ∀ transition ∈ summaryTransitions batchID member before after,
      (transition.decision = .batchCompleted batchID ∧ before.map (·.completed) = some false ∧
        after.map (·.completed) = some true) ∨
      (transition.decision = .batchCancelled batchID ∧ before.map (·.cancelled) = some false ∧
        after.map (·.cancelled) = some true) := by
  unfold summaryTransitions
  split
  · split <;> split <;> simp_all [Transition.decision]
  · simp

section Operation

variable (executed : World.exec label w operation choice = some (some answer, after))
include executed

/-- An operation decides what was open, and each question once. -/
theorem exec_decides :
    ((operation.target.transitions w.backend after.backend).map Transition.decision).Nodup ∧
    ∀ transition ∈ operation.target.transitions w.backend after.backend,
      transition.decision.made w.backend = some false ∧
      transition.decision.made after.backend = some true := by
  cases operation.target with
  | none => simp [Target.transitions]
  | chain chainID =>
    obtain ⟨distinct, decides⟩ := (World.exec_chain executed chainID).decides
    refine ⟨distinct, fun transition listed => ?_⟩
    obtain ⟨about, raised⟩ := decides transition listed
    rw [about]
    exact raised
  | batch batchID member =>
    rw [Target.transitions, batchTransitions_eq]
    obtain ⟨distinct, decides⟩ := summaryTransitions_decides
      (w.backend.summary batchID) (after.backend.summary batchID)
    refine ⟨distinct, fun transition listed => ?_⟩
    rcases decides transition listed with ⟨about, raised⟩ | ⟨about, raised⟩ <;>
      rw [about] <;> exact raised

/-- A decision about a workflow that is not created stays made. -/
theorem made_exec {transition : Transition}
    (chain : operation.createsChain ≠ some transition.workflow)
    (batch : operation.createsBatch ≠ some transition.workflow)
    (made : transition.decision.made w.backend ≠ some false) :
    transition.decision.made after.backend ≠ some false := by
  cases transition with
  | chainCompleted id | chainFailed id =>
    simp only [Transition.decision, Decision.made] at made ⊢
    rcases World.exec_chain executed id with same | ⟨_, changed⟩ | ⟨creates, _⟩
    · exact same ▸ made
    · generalize w.backend.chain id = before, after.backend.chain id = later at changed made ⊢
      cases changed with
      | same => exact made
      | advanced running => exact absurd (congrArg some running) made
      | failed running => exact absurd (congrArg some running) made
    · exact absurd creates chain
  | batchCompleted id | batchCancelled id =>
    simp only [Transition.decision, Decision.made] at made ⊢
    rcases World.exec_batch executed id with
      same | ⟨_, _, _, old, new, stored, updated, settled⟩ |
      ⟨_, old, stored, updated⟩ | ⟨creates, _⟩
    · exact same ▸ made
    · simp_all [settled.completed, settled.cancelled]
    · simp [updated, BatchSummary.cancel]
    · exact absurd creates batch

end Operation

/-! ## Runs -/

namespace World.Settled

variable {w after : World} (settled : w.Settled)
include settled

/-- An operation that creates only unmentioned workflows keeps the decisions. -/
theorem exec (executed : World.exec label w operation choice = some (some answer, after))
    (fresh : ∀ id, operation.createsChain = some id ∨
      operation.createsBatch = some id -> w.Unused id) : after.Settled := by
  obtain ⟨distinct, decides⟩ := exec_decides executed
  have history := congrArg (List.map fun entry => entry.2.decision) (transitions_exec executed)
  rw [List.map_append, List.map_map] at history
  constructor
  · rw [decisions, history]
    refine distinct.append settled.once ?_
    intro decision new old
    obtain ⟨transition, listed, rfl⟩ := List.mem_map.mp new
    exact settled.made _ old (decides transition listed).1
  · intro decision decided
    rw [decisions, history] at decided
    rcases List.mem_append.mp decided with new | old
    · obtain ⟨transition, listed, rfl⟩ := List.mem_map.mp new
      simp [(decides transition listed).2]
    · -- A workflow that the history mentions is not created again.
      have made := settled.made decision old
      obtain ⟨entry, listed, rfl⟩ := List.mem_map.mp old
      exact made_exec executed
        (fun creates => (fresh _ (.inl creates)).transitions entry listed rfl)
        (fun creates => (fresh _ (.inr creates)).transitions entry listed rfl) made

/-- Other steps commit nothing and may only prune the store. -/
theorem aside (transitions : after.transitions = w.transitions)
    (backend : after.backend = w.backend ∨ ∃ cutoff, after.backend = w.backend.prune cutoff) :
    after.Settled := by
  have history : after.decisions = w.decisions := by rw [decisions, transitions, decisions]
  refine ⟨history ▸ settled.once, fun decision listed => ?_⟩
  have made := settled.made decision (history ▸ listed)
  rcases backend with same | ⟨cutoff, pruned⟩
  · exact same ▸ made
  rw [pruned]
  cases decision with
  | chainEnded id =>
    rcases w.backend.prune_chain cutoff id with same | same <;> simp_all [Decision.made]
  | batchCompleted id | batchCancelled id =>
    rcases w.backend.prune_summary cutoff id with same | same <;> simp_all [Decision.made]

end World.Settled

/-- Every step keeps what was decided. -/
theorem ledger_settles :
    ledger.Relates (Broker.machine kind callbacksDisabled) .always
      (engineProtocol kind) fun before after => before.Settled -> after.Settled where
  operation := by
    intro bound label phase next before world operation answer choice _ _ holds
      moved executed _ settled
    refine settled.exec executed fun id creates => ?_
    simp only [ledger, EngineMoves.creates moved creates] at holds
    exact holds.2.2
  blocked := fun executed => absurd executed World.exec_answered
  finished := by
    intro label before world result finished settled
    rcases World.finish_cases finished with
      ⟨_, _, _, _, rfl⟩ | ⟨_, _, _, rfl⟩ | ⟨_, _, _, rfl⟩ <;>
      exact settled.aside rfl (.inl rfl)
  external := by
    intro bound before world move started moved _ settled
    cases started with
    | none =>
      rcases external_idle moved with ⟨_, _, _, _, rfl⟩ | ⟨cutoff, _, rfl⟩ | ⟨_, _, rfl⟩
      · exact settled.aside rfl (.inl rfl)
      · exact settled.aside rfl (.inr ⟨cutoff, rfl⟩)
      · exact settled.aside rfl (.inl rfl)
    | some program =>
      rcases external_started moved with
        ⟨_, rfl⟩ | ⟨_, rfl⟩ | ⟨_, _, _, _, _, rfl⟩ <;>
        exact settled.aside rfl (.inl rfl)

/-- In every interleaving over either built-in store, with faults, lost answers,
duplicate deliveries and pruning, no chain ends twice, no batch is completed or
cancelled twice, and what was decided of a stored workflow is never undone. -/
theorem decisions_committed_once
    (reached : (Broker.machine kind callbacksDisabled).Reaches .always (Broker.start kind) config) :
    config.world.decisions.Nodup ∧ ∀ decision ∈ config.world.decisions,
      decision.made config.world.backend ≠ some false := by
  have hold : ledger.Hold (engineProtocol kind) (Broker.start kind) := .initial registered_initial
  have settled := hold.relates (Broker.governs _ _) ledger_kept ledger_settles
    (fun _ kept => kept) (fun earlier later kept => later (earlier kept)) reached
    ⟨List.nodup_nil, fun _ listed => by cases listed⟩
  exact ⟨settled.once, settled.made⟩

theorem decisions_committed_once_two_nodes :
    ∃ config : Broker.Configuration, config.world.decisions = [.chainEnded "chn_1"] ∧
      (Decision.chainEnded "chn_1").made config.world.backend ≠ some false := by
  obtain ⟨config, reached, decided⟩ :
      ∃ config, (Broker.machine .memory false).Reaches .always (Broker.start .memory) config ∧
        config.world.decisions = [.chainEnded "chn_1"] :=
    Machine.Reaches.of_decide (twoNodeDispatch ++ secondNodeFails) (by decide +kernel)
  exact ⟨config, decided, (decisions_committed_once reached).2 _ (by simp [decided])⟩

end JobQueue.Workflow
