import JobQueue.Workflow.Recovery.Chain

/-!
# Recovered chain deliveries fail closed

What observers see of a recovered delivery. It reports success without running
the handler only on a receipt that its own generation wrote, it enqueues at
most one node, and it does neither when it is refused.
-/

namespace JobQueue.Workflow

open Interleaving

/-! ## Effects -/

/-- What observers of a chain delivery see: handlers it starts, facts of
success it reports, nodes it enqueues. -/
inductive NodeEffect
  | handled (env : Envelope)
  | reported (event : Event)
  | enqueued (message : Envelope)

/-- The facts that report the success of a chain node. -/
def EventKind.chainSuccess : EventKind -> Bool
  | .jobSucceeded => true
  | .chainAdvanced => true
  | .chainCompleted => true
  | _ => false

/-- The operations that have such an effect. -/
def Op.nodeEffect : Op -> Option NodeEffect
  | .handle env => some (.handled env)
  | .emit event _ =>
    if event.kind.chainSuccess then some (.reported event) else none
  | .busDispatch .chainNode message => some (.enqueued message)
  | _ => none

/-- The effects in a log. -/
def nodeEffects (log : List (Entry Op Op.Answer)) : List NodeEffect :=
  select Op.nodeEffect log

@[simp] theorem nodeEffects_nil : nodeEffects [] = [] := rfl

@[simp] theorem nodeEffects_append :
    nodeEffects (before ++ after) = nodeEffects before ++ nodeEffects after :=
  select_append before after

/-- The nodes among the effects. -/
def NodeEffect.message : NodeEffect -> Option Envelope
  | .enqueued message => some message
  | _ => none

/-- The nodes a delivery enqueues. -/
def enqueuedNodes (effects : List NodeEffect) : List Envelope :=
  effects.filterMap NodeEffect.message

@[simp] theorem enqueuedNodes_nil : enqueuedNodes [] = [] := rfl

@[simp] theorem enqueuedNodes_append :
    enqueuedNodes (before ++ after) = enqueuedNodes before ++ enqueuedNodes after :=
  List.filterMap_append

section Effects

variable {r : Runtime}

/-- The program has no effect on observers. -/
abbrev Unnoticed {ρ : Type} (program : Engine ρ) : Prop :=
  Unseen Op.nodeEffect program

variable {ρ : Type}

theorem Stored.unnoticed (stored : Stored program) : Unnoticed program := by
  refine Uses.weaken stored fun operation known => ?_
  cases operation <;> first | rfl | cases known

theorem Aside.unnoticed (aside : Aside program) : Unnoticed program := by
  refine Uses.weaken aside fun operation known => ?_
  unfold Op.aside at known
  split at known <;> first | rfl | cases known

/-! ### Reports -/

/-- Only facts of success. -/
def OnlyReports (effects : List NodeEffect) : Prop :=
  ∀ effect ∈ effects, ∃ event, effect = .reported event

theorem OnlyReports.append
    (earlier : OnlyReports before) (later : OnlyReports after) : OnlyReports (before ++ after) := by
  intro effect member
  rcases List.mem_append.mp member with present | present
  · exact earlier effect present
  · exact later effect present

theorem leaves_emit :
    Leaves Op.nodeEffect environment (emit context event) fun effects _ => OnlyReports effects := by
  refine Leaves.weaken Leaves.perform ?_
  rintro _ _ rfl effect member
  simp only [Op.nodeEffect, Option.mem_toList, Option.ite_none_right_eq_some] at member
  exact ⟨event, (Option.some.inj member.2).symm⟩

theorem leaves_emitFact :
    Leaves Op.nodeEffect environment (emitFact context kind eventID env error)
      fun effects _ => OnlyReports effects :=
  Leaves.skip (uses_ask rfl) fun _ => leaves_emit

theorem leaves_emitStoredJobOutcome :
    Leaves Op.nodeEffect environment (emitStoredJobOutcome context outcome)
      fun effects _ => OnlyReports effects := by
  unfold emitStoredJobOutcome
  split
  · exact Leaves.ret (by simp [OnlyReports])
  · exact Leaves.skip (uses_storedJobOutcomeFactID rfl) fun _ =>
      leaves_emit

/-- An attempt that failed reports no success. -/
theorem unnoticed_emitStoredJobOutcome (failed : outcome.error ≠ none) :
    Unnoticed (emitStoredJobOutcome context outcome) := by
  unfold emitStoredJobOutcome
  split
  · exact trivial
  · refine Uses.bind (uses_storedJobOutcomeFactID rfl) fun _ => ?_
    exact uses_ask rfl

/-! ### Continuation -/

/-- At most the node after a position is enqueued, while the chain waits for
it. -/
inductive EnqueuesSuccessor (env : Envelope) (state : ChainState) (index : Nat) :
    List NodeEffect -> Prop
  | nothing : EnqueuesSuccessor env state index []
  | successor (node : ChainNode) (id : String) (incomplete : state.completed = false)
      (unfailed : state.failed = false) (waiting : state.nextIndex = index + 1)
      (found : state.nodes[index + 1]? = some node) :
      EnqueuesSuccessor env state index
        [.enqueued (chainNodeEnvelope env.dispatchID env.chainID id node)]

theorem leaves_dispatchChainSuccessor :
    Leaves Op.nodeEffect environment (dispatchChainSuccessor env next)
      fun effects _ => effects = [] ∨ ∃ node id, next = some node ∧ effects =
          [.enqueued (chainNodeEnvelope env.dispatchID env.chainID id node)] :=
    by
  cases next with
  | none => exact Leaves.ret (.inl rfl)
  | some node =>
    refine Leaves.skip (uses_ask rfl) fun id => ?_
    refine Leaves.bind Leaves.perform ?_
    rintro _ result rfl
    refine Leaves.weaken (Leaves.of_unseen ?_) ?_
    · split
      · exact Uses.bind (uses_ask rfl) fun _ => trivial
      · split <;> exact trivial
    · rintro _ _ rfl
      exact .inr ⟨node, id, rfl, rfl⟩

theorem leaves_recoverCommittedChainSuccessor :
    Leaves Op.nodeEffect environment (recoverCommittedChainSuccessor env state index)
      fun effects _ => EnqueuesSuccessor env state index effects := by
  unfold recoverCommittedChainSuccessor
  split
  · exact Leaves.ret .nothing
  · rename_i going
    simp only [not_or, Bool.not_eq_true, not_not] at going
    obtain ⟨incomplete, unfailed, waiting⟩ := going
    refine Leaves.weaken leaves_dispatchChainSuccessor ?_
    rintro effects _ (rfl | ⟨node, id, found, rfl⟩)
    · exact .nothing
    · refine .successor node id incomplete unfailed waiting ?_
      rw [waiting] at found
      exact found

/-- What a recovery without the handler shows: facts only when they are owned,
then at most the successor. -/
def Recovered (env : Envelope) (state : ChainState) (index : Nat) (owned : Prop)
    (effects : List NodeEffect) : Prop :=
  ∃ facts rest, effects = facts ++ rest ∧ OnlyReports facts ∧
    (facts ≠ [] -> owned) ∧ EnqueuesSuccessor env state index rest

namespace Recovered

theorem of_successor (enqueues : EnqueuesSuccessor env state index effects) :
    Recovered env state index owned effects :=
  ⟨[], effects, rfl, by simp [OnlyReports], by simp, enqueues⟩

theorem nothing : Recovered env state index owned [] :=
  of_successor .nothing

theorem imp (recovered : Recovered env state index owned effects)
    (implies : owned -> other) : Recovered env state index other effects := by
  obtain ⟨facts, rest, same, reports, owns, enqueues⟩ := recovered
  exact ⟨facts, rest, same, reports, fun some => implies (owns some), enqueues⟩

/-- Facts are owned. -/
theorem owned_of_reported (recovered : Recovered env state index owned effects)
    (reported : .reported event ∈ effects) : owned := by
  obtain ⟨facts, rest, rfl, _, owns, enqueues⟩ := recovered
  rcases List.mem_append.mp reported with present | present
  · exact owns (List.ne_nil_of_mem present)
  · cases enqueues <;> simp at present

/-- A node is enqueued as the successor. -/
theorem successor_of_enqueued (recovered : Recovered env state index owned effects)
    (enqueued : .enqueued message ∈ effects) :
    ∃ node id, state.completed = false ∧ state.failed = false ∧
      state.nextIndex = index + 1 ∧ state.nodes[index + 1]? = some node ∧
      message = chainNodeEnvelope env.dispatchID env.chainID id node := by
  obtain ⟨facts, rest, rfl, reports, _, enqueues⟩ := recovered
  rcases List.mem_append.mp enqueued with present | present
  · obtain ⟨event, impossible⟩ := reports _ present
    cases impossible
  · cases enqueues with
    | nothing => simp at present
    | successor node id incomplete unfailed waiting found =>
      simp only [List.mem_singleton, NodeEffect.enqueued.injEq] at present
      exact ⟨node, id, incomplete, unfailed, waiting, found, present⟩

end Recovered

theorem OnlyReports.enqueuedNodes_eq (reports : OnlyReports effects) :
    enqueuedNodes effects = [] := by
  refine List.filterMap_eq_nil_iff.mpr fun effect member => ?_
  obtain ⟨event, rfl⟩ := reports effect member
  rfl

/-- A recovery enqueues at most one node. -/
theorem Recovered.length_enqueuedNodes_le (recovered : Recovered env state index owned effects) :
    (enqueuedNodes effects).length ≤ 1 := by
  obtain ⟨facts, rest, rfl, reports, _, enqueues⟩ := recovered
  rw [enqueuedNodes_append, reports.enqueuedNodes_eq, List.nil_append]
  cases enqueues <;> simp [enqueuedNodes, NodeEffect.message]

theorem leaves_reportRecoveredChainSuccess :
    Leaves Op.nodeEffect environment (reportRecoveredChainSuccess context env state index outcome)
      fun effects _ => Recovered env state index True effects := by
  unfold reportRecoveredChainSuccess
  split
  · refine Leaves.bind leaves_emitStoredJobOutcome ?_
    intro first _ reportsFirst
    refine Leaves.bind leaves_emitFact ?_
    intro second _ reportsSecond
    exact Leaves.ret ⟨first ++ second, [], by simp,
      reportsFirst.append reportsSecond, fun _ => trivial, .nothing⟩
  · refine Leaves.bind leaves_emitStoredJobOutcome ?_
    intro first _ reportsFirst
    refine Leaves.bind leaves_emitFact ?_
    intro second _ reportsSecond
    refine Leaves.weaken leaves_recoverCommittedChainSuccessor ?_
    intro rest _ enqueues
    exact ⟨first ++ second, rest, by simp, reportsFirst.append reportsSecond,
      fun _ => trivial, enqueues⟩

theorem leaves_recoverChainReceipt :
    Leaves Op.nodeEffect environment
      (recoverChainReceipt context provenance env state index receipt)
      fun effects _ => Recovered env state index
        (SuccessReceipt env state index receipt ∧ ExactOwner provenance env receipt) effects := by
  have stage := recoverChainReceipt_stage context provenance env state index receipt
  generalize recoverChainReceipt context provenance env state index receipt = program at stage
  cases stage with
  | refused error => exact Leaves.ret .nothing
  | otherOwner proves =>
    refine Leaves.weaken leaves_recoverCommittedChainSuccessor ?_
    exact fun _ _ => .of_successor
  | exactOwner proves owner =>
    refine Leaves.skip (uses_ask rfl) fun observed => ?_
    split
    · exact Leaves.ret .nothing
    · refine Leaves.weaken leaves_reportRecoveredChainSuccess ?_
      exact fun _ _ recovered => recovered.imp fun _ => ⟨proves, owner⟩

/-! ### Evidence in the log -/

/-- The log shows a receipt that proves the success and that the recovered
generation itself wrote. -/
def OwnReceipt (environment : Environment Op Op.Answer) (r : Runtime)
    (provenance : DeliveryProvenance) (env : Envelope) (state : ChainState)
    (index : Nat) (log : List (Entry Op Op.Answer)) : Prop :=
  ∃ receipts receipt, r.store.transitionReceiptStore = some receipts ∧ Shows environment
      (receipts.chainTransitionReceipt env.chainID env.nodeID)
      (.ok (some receipt)) log ∧
    SuccessReceipt env state index receipt ∧ ExactOwner provenance env receipt

/-- The effects of a log rest on a chain state that it shows. -/
def Justified (environment : Environment Op Op.Answer) (r : Runtime)
    (provenance : DeliveryProvenance) (env : Envelope) (log : List (Entry Op Op.Answer)) : Prop :=
  nodeEffects log = [] ∨ ∃ state index,
    Shows environment (r.store.getChain env.chainID) (.ok state) log ∧
    HoldsNode env state index ∧
    Recovered env state index
      (OwnReceipt environment r provenance env state index log)
      (nodeEffects log)

theorem OwnReceipt.append_left (owns : OwnReceipt environment r provenance env state index log) :
    OwnReceipt environment r provenance env state index (before ++ log) := by
  obtain ⟨receipts, receipt, capable, shows, proves, owner⟩ := owns
  exact ⟨receipts, receipt, capable, shows.append_left, proves, owner⟩

/-- A beginning without effects does not matter. -/
theorem Justified.append_left (justified : Justified environment r provenance env log)
    (unseen : nodeEffects before = []) :
    Justified environment r provenance env (before ++ log) := by
  rcases justified with none | ⟨state, index, shows, holds, recovered⟩
  · exact .inl (by simp [none, unseen])
  · refine .inr ⟨state, index, shows.append_left, holds, ?_⟩
    rw [nodeEffects_append, unseen]
    exact recovered.imp fun owns => owns.append_left

theorem Justified.length_enqueuedNodes_le (justified : Justified environment r provenance env log) :
    (enqueuedNodes (nodeEffects log)).length ≤ 1 := by
  rcases justified with none | ⟨state, index, _, _, recovered⟩
  · simp [none]
  · exact recovered.length_enqueuedNodes_le

theorem ensures_recoverOwnedSuccess (passive : r.store.Passive) :
    Ensures environment (recoverOwnedSuccess r context provenance env state index)
      fun log result => result ≠ none ∧ Recovered env state index
          (OwnReceipt environment r provenance env state index log)
          (nodeEffects log) := by
  have successor : Leaves Op.nodeEffect environment (do
        let result ← recoverCommittedChainSuccessor env state index
        return some result)
      fun effects result => result ≠ none ∧ EnqueuesSuccessor env state index effects := by
    refine Leaves.bind leaves_recoverCommittedChainSuccessor ?_
    intro effects result enqueues
    exact Leaves.ret ⟨by simp, by simpa using enqueues⟩
  unfold recoverOwnedSuccess
  cases capable : r.store.transitionReceiptStore with
  | none =>
    exact Ensures.weaken successor fun _ _ met =>
      ⟨met.1, .of_successor met.2⟩
  | some receipts =>
    have read := passive.chainTransitionReceipt receipts capable env.chainID env.nodeID
    refine Ensures.bind (Ensures.and (Leaves.of_unseen read.unnoticed) (Ensures.shown _)) ?_
    rintro before answer ⟨unseen, shows⟩
    change nodeEffects before = [] at unseen
    rcases answer with error | _ | receipt
    · refine Ensures.ret ⟨by simp, ?_⟩
      rw [List.append_nil, unseen]
      exact .nothing
    · refine Ensures.weaken successor fun log _ met => ⟨met.1, ?_⟩
      rw [nodeEffects_append, unseen]
      exact .of_successor met.2
    · refine Ensures.bind leaves_recoverChainReceipt ?_
      intro middle result recovered
      refine Ensures.ret ⟨by simp, ?_⟩
      rw [List.append_nil, nodeEffects_append, unseen]
      refine recovered.imp fun ⟨proves, owner⟩ => ?_
      exact ⟨receipts, receipt, capable, shows.append_right, proves, owner⟩

/-- Every effect of a success recovery is justified, and there is none when it
leaves the delivery to the ordinary path. -/
theorem ensures_recoverCommittedChainSuccess (passive : r.store.Passive)
    (recovered : recoveredDeliveryProvenance context = some provenance) :
    Ensures environment (recoverCommittedChainSuccess r context env)
      fun log result => Justified environment r provenance env log ∧
        (result = none -> nodeEffects log = []) := by
  obtain ⟨continuation, same, failed, stages⟩ := recoverCommittedChainSuccess_stages recovered
  rw [same]
  refine Ensures.bind (Ensures.and (Leaves.of_unseen (passive.getChain env.chainID).unnoticed)
      (Ensures.shown _)) ?_
  rintro before answer ⟨unseen, shows⟩
  change nodeEffects before = [] at unseen
  have silent : ∀ result : Option (Option GoError),
      Ensures environment (.ret result) fun after final =>
        Justified environment r provenance env (before ++ after) ∧
          (final = none -> nodeEffects (before ++ after) = []) :=
    fun result => Ensures.ret ⟨.inl (by simpa using unseen), fun _ => by simpa using unseen⟩
  cases answer with
  | error error =>
    rw [failed error]
    exact silent _
  | ok state =>
    have stage := stages state
    generalize continuation (.ok state) = program at stage
    cases stage with
    | refused error => exact silent _
    | waiting index holds current => exact silent _
    | owned index holds committed =>
      refine Ensures.weaken (ensures_recoverOwnedSuccess passive) ?_
      intro after result met
      refine ⟨.inr ⟨state, index, shows.append_right, holds, ?_⟩, fun absent => absurd absent met.1⟩
      rw [nodeEffects_append, unseen]
      exact met.2.imp fun owns => owns.append_left

theorem stored_recoverCommittedChainFailure (passive : r.store.Passive) :
    Stored (recoverCommittedChainFailure r context env) :=
  uses_recoverCommittedChainFailure (passive.getChain _) fun _ capable =>
    passive.chainTransitionReceipt _ capable _ _

/-- Both recoveries together. -/
theorem ensures_recoverCommittedChain (passive : r.store.Passive)
    (recovered : recoveredDeliveryProvenance context = some provenance) :
    Ensures environment (recoverCommittedChain r context env)
      fun log result => Justified environment r provenance env log ∧
        (result = none -> nodeEffects log = []) := by
  refine Ensures.bind (Leaves.of_unseen (stored_recoverCommittedChainFailure passive).unnoticed) ?_
  intro before answer unseen
  change nodeEffects before = [] at unseen
  cases answer with
  | some result =>
    exact Ensures.ret ⟨.inl (by simpa using unseen), fun _ => by
      simpa using unseen⟩
  | none =>
    refine Ensures.weaken (ensures_recoverCommittedChainSuccess passive recovered) ?_
    intro after result met
    refine ⟨met.1.append_left unseen, fun absent => ?_⟩
    rw [nodeEffects_append, unseen, met.2 absent]
    rfl

/-! ### The ordinary path -/

/-- One attempt starts the handler or fails without it. -/
theorem leaves_executeStoredJobAttempt :
    Leaves Op.nodeEffect environment (executeStoredJobAttempt context env) fun effects outcome =>
        outcome.env = applyDeliveryAttempt context env ∧ enqueuedNodes effects = [] ∧
          ((∃ started, effects = [.handled started]) ∨ effects = [] ∧ outcome.error ≠ none) := by
  refine Leaves.skip (uses_ask rfl) fun started => ?_
  refine Leaves.skip (uses_ask rfl) fun id => ?_
  refine Leaves.skip (uses_ask rfl) fun _ => ?_
  refine Leaves.skip (uses_ask rfl) fun registered => ?_
  cases registered with
  | true =>
    refine Leaves.bind Leaves.perform ?_
    rintro _ error rfl
    refine Leaves.skip (uses_ask rfl) fun finished => ?_
    exact Leaves.ret ⟨rfl, rfl, .inl ⟨_, rfl⟩⟩
  | false =>
    refine Leaves.skip (uses_ask rfl) fun finished => ?_
    exact Leaves.ret ⟨rfl, rfl, .inr ⟨rfl, by simp⟩⟩

theorem stored_failChainNode (passive : r.store.Passive) :
    Stored (failChainNode r chainID nodeID cause) := by
  unfold failChainNode
  split
  · rename_i methods capable
    exact passive.outcomeStore methods capable chainID nodeID cause
  refine Uses.bind (passive.getChain _) fun answer => ?_
  split
  · exact trivial
  split
  · exact trivial
  split
  · exact trivial
  refine Uses.bind (passive.failChain _ _) fun answer => ?_
  split
  · exact trivial
  refine Uses.bind (passive.getChain _) fun answer => ?_
  split
  · exact trivial
  split
  · exact trivial
  split <;> exact trivial

theorem stored_failChainNodeOutcome (passive : r.store.Passive) :
    Stored (failChainNodeOutcome r chainID nodeID cause claim) := by
  unfold failChainNodeOutcome
  split
  · rename_i fail capable
    exact passive.chainFailureStore fail capable chainID nodeID cause claim
  · exact Uses.bind (stored_failChainNode passive) fun _ => trivial

theorem stored_advanceChainNode (passive : r.store.Passive) :
    Stored (advanceChainNode r chainID nodeID claim) := by
  unfold advanceChainNode
  split
  · rename_i advance capable
    exact passive.chainAdvanceStore advance capable chainID nodeID claim
  · exact Uses.bind (passive.advanceChain chainID nodeID) fun _ => trivial

theorem observedChainFailure_ne_none (failed : current ≠ none) :
    observedChainFailure state current ≠ none := by
  unfold observedChainFailure
  split
  · exact failed
  · split <;> simp

theorem unnoticed_reportChainFailure (failed : outcome.error ≠ none) :
    Unnoticed (reportChainFailure context env outcome state) := by
  have observed : ({ outcome with
      error := observedChainFailure state outcome.error } : StoredJobOutcome).error ≠ none :=
    observedChainFailure_ne_none failed
  refine Uses.bind (unnoticed_emitStoredJobOutcome observed) fun _ => ?_
  refine Uses.bind (Uses.bind (uses_ask rfl) fun _ =>
    Uses.bind (uses_ask rfl) fun _ => uses_ask rfl) fun _ => ?_
  refine Uses.bind aside_dispatchCallback.unnoticed fun _ => ?_
  refine Uses.bind aside_dispatchCallback.unnoticed fun _ => ?_
  exact Uses.bind (uses_ask rfl) fun _ => trivial

theorem ensures_of_unnoticed (unnoticed : Unnoticed program) :
    Ensures environment program fun log _ =>
      Justified environment r provenance env log :=
  Ensures.weaken (Leaves.of_unseen unnoticed) fun _ _ => .inl

/-- An unnoticed beginning of a justified program. -/
theorem ensures_justified_bind {κ : Type} {second : ρ -> Engine κ} (unnoticed : Unnoticed first)
    (ensures : ∀ result, Ensures environment (second result) fun log _ =>
      Justified environment r provenance env log) :
    Ensures environment (first >>= second) fun log _ =>
      Justified environment r provenance env log := by
  refine Ensures.bind (Leaves.of_unseen unnoticed) ?_
  intro before result unseen
  exact Ensures.weaken (ensures result) fun _ _ justified =>
    justified.append_left unseen

/-- Facts and callbacks after a completed chain enqueue no node. -/
theorem leaves_reportChainCompletion :
    Leaves Op.nodeEffect environment (reportChainCompletion context env outcome state)
      fun effects _ => OnlyReports effects := by
  have nothing : OnlyReports [] := by simp [OnlyReports]
  unfold reportChainCompletion
  split
  · exact Leaves.ret nothing
  split
  · exact Leaves.ret nothing
  split
  · exact Leaves.ret nothing
  split
  · exact Leaves.ret nothing
  refine Leaves.bind leaves_emitStoredJobOutcome ?_
  intro first _ reportsFirst
  refine Leaves.skip (uses_ask rfl) fun _ => ?_
  refine Leaves.bind leaves_emitFact ?_
  intro second _ reportsSecond
  refine Leaves.weaken (Leaves.of_unseen (Uses.bind aside_dispatchCallback.unnoticed fun _ =>
      Uses.bind (uses_ask rfl) fun _ => trivial)) ?_
  rintro _ _ rfl
  simpa using reportsFirst.append reportsSecond

variable (passive : r.store.Passive)
  (recovered : recoveredDeliveryProvenance context = some provenance)
include passive recovered

theorem ensures_failChainDelivery (delivered : outcome.env = env) (failed : outcome.error ≠ none) :
    Ensures environment (failChainDelivery r context env outcome)
      fun log _ => Justified environment r provenance env log := by
  refine ensures_justified_bind (stored_failChainNodeOutcome passive).unnoticed ?_
  intro answer
  split
  · exact ensures_of_unnoticed trivial
  refine ensures_justified_bind aside_markDeliveryTransitionCommitted.unnoticed fun _ => ?_
  split
  · unfold settleLostChainFailure
    simp only [recovered, delivered]
    split
    · refine ensures_justified_bind (stored_recoverCommittedChainFailure passive).unnoticed ?_
      intro answer
      split <;> exact ensures_of_unnoticed trivial
    · refine Ensures.bind (ensures_recoverCommittedChain passive recovered) ?_
      intro before answer met
      cases answer <;> exact Ensures.ret (by simpa using met.1)
  split
  · exact ensures_of_unnoticed trivial
  split
  · exact ensures_of_unnoticed trivial
  · exact ensures_of_unnoticed (unnoticed_reportChainFailure failed)

/-- After a success at most one node is enqueued. -/
theorem leaves_advanceChainDelivery :
    Leaves Op.nodeEffect environment (advanceChainDelivery r context env outcome)
      fun effects _ => (enqueuedNodes effects).length ≤ 1 := by
  have none : (enqueuedNodes []).length ≤ 1 := by simp
  have completion : ∀ state, Leaves Op.nodeEffect environment
      (reportChainCompletion context env outcome state)
      fun effects _ => (enqueuedNodes effects).length ≤ 1 := by
    intro state
    refine Leaves.weaken leaves_reportChainCompletion ?_
    intro effects _ reports
    simp [reports.enqueuedNodes_eq]
  refine Leaves.skip (stored_advanceChainNode passive).unnoticed ?_
  intro answer
  split
  · exact Leaves.ret none
  rename_i advance
  refine Leaves.skip aside_markDeliveryTransitionCommitted.unnoticed fun _ => ?_
  split
  · unfold settleLostChainSuccess
    simp only [recovered]
    split
    · exact Leaves.ret none
    · refine Ensures.bind (ensures_recoverCommittedChainSuccess passive recovered) ?_
      intro before answer met
      have bound := met.1.length_enqueuedNodes_le
      cases answer <;> exact Ensures.ret (by rw [List.append_nil]; exact bound)
  split
  · split
    · refine Leaves.skip (passive.getChain _).unnoticed fun answer => ?_
      split
      · exact Leaves.ret none
      · exact completion _
    · exact completion _
  · refine Leaves.bind leaves_emitStoredJobOutcome ?_
    intro first _ reportsFirst
    refine Leaves.bind leaves_emitFact ?_
    intro second _ reportsSecond
    refine Leaves.weaken leaves_dispatchChainSuccessor ?_
    intro effects _ enqueues
    simp only [enqueuedNodes_append, reportsFirst.enqueuedNodes_eq,
      reportsSecond.enqueuedNodes_eq, List.nil_append]
    rcases enqueues with rfl | ⟨node, id, _, rfl⟩
    · exact none
    · simp [enqueuedNodes, NodeEffect.message]

/-- The handler ran. -/
def HandlerRan (log : List (Entry Op Op.Answer)) : Prop :=
  ∃ env, .handled env ∈ nodeEffects log

theorem ensures_executeChainNode (delivered : applyDeliveryAttempt context env = env) :
    Ensures environment (executeChainNode r context env) fun log _ =>
      (enqueuedNodes (nodeEffects log)).length ≤ 1 ∧
        (HandlerRan log ∨ Justified environment r provenance env log) := by
  refine Ensures.bind leaves_executeStoredJobAttempt ?_
  intro before outcome ⟨executed, unqueued, started⟩
  rw [delivered] at executed
  change enqueuedNodes (nodeEffects before) = [] at unqueued
  change (∃ started, nodeEffects before = [.handled started]) ∨
    nodeEffects before = [] ∧ outcome.error ≠ none at started
  have ran : (∃ started, nodeEffects before = [.handled started]) ->
      ∀ after, HandlerRan (before ++ after) := by
    rintro ⟨env, same⟩ after
    exact ⟨env, by simp [same]⟩
  -- What follows the attempt is justified, or the handler ran.
  have after_attempt : ∀ {program : Engine (Option GoError)}, outcome.error ≠ none ->
      Ensures environment program (fun log _ =>
        Justified environment r provenance env log) ->
      Ensures environment program fun after _ =>
        (enqueuedNodes (nodeEffects (before ++ after))).length ≤ 1 ∧ (HandlerRan (before ++ after) ∨
            Justified environment r provenance env (before ++ after)) := by
    intro program failed ensures
    refine Ensures.weaken ensures fun after _ justified => ⟨?_, ?_⟩
    · rw [nodeEffects_append, enqueuedNodes_append, unqueued, List.nil_append]
      exact justified.length_enqueuedNodes_le
    · rcases started with started | ⟨unseen, _⟩
      · exact .inl (ran started after)
      · exact .inr (justified.append_left unseen)
  have failed : ∀ {decision}, decision ≠ .succeeded ->
      classifyAttempt outcome.attempt outcome.error = decision -> outcome.error ≠ none := by
    rintro decision unsuccessful rfl succeeded
    simp [succeeded] at unsuccessful
  cases decided : classifyAttempt outcome.attempt outcome.error with
  | retry => exact after_attempt (failed (by simp) decided) (ensures_of_unnoticed trivial)
  | redeliver => exact after_attempt (failed (by simp) decided) (ensures_of_unnoticed trivial)
  | failed =>
    have unsuccessful := failed (by simp) decided
    exact after_attempt unsuccessful
      (ensures_failChainDelivery passive recovered executed unsuccessful)
  | succeeded =>
    have handled : ∃ started, nodeEffects before = [.handled started] := by
      rcases started with started | ⟨_, unsuccessful⟩
      · exact started
      · exact absurd ((classifyAttempt_eq_succeeded_iff _ _).mp decided) unsuccessful
    refine Ensures.weaken (leaves_advanceChainDelivery passive recovered) ?_
    intro after _ bound
    refine ⟨?_, .inl (ran handled after)⟩
    rw [nodeEffects_append, enqueuedNodes_append, unqueued, List.nil_append]
    exact bound

/-- A recovered delivery: what it shows without running the handler is
justified, and it enqueues at most one node. -/
theorem ensures_handleInternalChainNode :
    Ensures environment (handleInternalChainNode r context env) fun log _ =>
      (enqueuedNodes (nodeEffects log)).length ≤ 1 ∧
        (HandlerRan log ∨ Justified environment r provenance
          (applyDeliveryAttempt context env) log) := by
  unfold handleInternalChainNode
  simp only [recovered]
  refine Ensures.bind (ensures_recoverCommittedChain passive recovered) ?_
  intro before answer met
  cases answer with
  | some result =>
    refine Ensures.ret ⟨?_, .inr ?_⟩
    · simpa using met.1.length_enqueuedNodes_le
    · simpa using met.1
  | none =>
    have unseen := met.2 rfl
    have delivered : applyDeliveryAttempt context
        (applyDeliveryAttempt context env) = applyDeliveryAttempt context env := by
      unfold applyDeliveryAttempt
      cases context.attempt <;> rfl
    refine Ensures.weaken (ensures_executeChainNode passive recovered delivered) ?_
    rintro after _ ⟨bound, shown⟩
    refine ⟨by simpa [unseen] using bound, ?_⟩
    rcases shown with ⟨handled, ran⟩ | justified
    · exact .inl ⟨handled, by simp [ran]⟩
    · exact .inr (justified.append_left unseen)

end Effects

/-! ## Recovery fails closed -/

/-- A recovered delivery of a chain node ends. It is redelivered, having asked
only the store, when the state or receipt disagrees with the envelope. It
enqueues at most one node. Unless the handler ran, it reports success only on
a receipt of the recovered generation itself, and the node it enqueues is the
one a running chain waits for. -/
theorem chain_recovery_fails_closed
    {r : Runtime} {context : DeliveryContext} {provenance : DeliveryProvenance}
    (passive : r.store.Passive)
    (recovered : recoveredDeliveryProvenance context = some provenance)
    (env : Envelope) (environment : Environment Op Op.Answer) :
    let delivered := applyDeliveryAttempt context env
    let handling := handleInternalChainNode r context env
    (∃ log result, Logs environment handling log result) ∧ (∀ state presented,
        PresentsChain environment r.store delivered state presented ->
        ChainDisagreement delivered state presented ->
        Ensures environment handling fun log result =>
          (∀ entry ∈ log, entry.1.stored = true) ∧
            ∀ attempt, classifyAttempt attempt result = .redeliver) ∧
      Ensures environment handling fun log _ =>
        (enqueuedNodes (nodeEffects log)).length ≤ 1 ∧ (HandlerRan log ∨
            (∀ event, .reported event ∈ nodeEffects log -> ∃ state index receipts receipt,
                Shows environment (r.store.getChain delivered.chainID) (.ok state) log ∧
                HoldsNode delivered state index ∧
                r.store.transitionReceiptStore = some receipts ∧
                Shows environment (receipts.chainTransitionReceipt delivered.chainID
                    delivered.nodeID) (.ok (some receipt)) log ∧
                SuccessReceipt delivered state index receipt ∧
                ExactOwner provenance delivered receipt) ∧
            ∀ message, .enqueued message ∈ nodeEffects log -> ∃ state index node id,
                Shows environment (r.store.getChain delivered.chainID) (.ok state) log ∧
                HoldsNode delivered state index ∧
                state.completed = false ∧ state.failed = false ∧
                state.nextIndex = index + 1 ∧
                state.nodes[index + 1]? = some node ∧
                message = chainNodeEnvelope delivered.dispatchID delivered.chainID id node) := by
  intro delivered handling
  refine ⟨Logs.exists_run environment handling, ?_, ?_⟩
  · intro state presented presents disagrees
    refine Ensures.weaken (handleInternalChainNode_refuses presents passive recovered disagrees) ?_
    rintro log _ ⟨unseen, error, rfl, uncommitted⟩
    exact ⟨stored_of_select_foreign unseen,
      fun attempt => classifyAttempt_of_isUncommitted uncommitted⟩
  · refine Ensures.weaken (ensures_handleInternalChainNode passive recovered) ?_
    rintro log _ ⟨bound, ran | justified⟩
    · exact ⟨bound, .inl ran⟩
    refine ⟨bound, .inr ?_⟩
    rcases justified with none | ⟨state, index, shows, holds, shown⟩
    · simp [none]
    refine ⟨fun event reported => ?_, fun message enqueued => ?_⟩
    · obtain ⟨receipts, receipt, capable, read, proves, owner⟩ := shown.owned_of_reported reported
      exact ⟨state, index, receipts, receipt, shows, holds, capable, read, proves, owner⟩
    · obtain ⟨node, id, successor⟩ := shown.successor_of_enqueued enqueued
      exact ⟨state, index, node, id, shows, holds, successor⟩

/-- A chain of two nodes that waits for the second. -/
def advancedChain : ChainState := { twoNodeState with nextIndex := 1 }

/-- The message of its first node. -/
def firstNodeEnvelope : Envelope where
  dispatchID := "dispatch"
  kind := .chainNode
  chainID := "chain"
  nodeID := "first"
  jobID := "job"
  job := { jobType := "a" }

/-- A receipt for the first node of an earlier chain of the same name. -/
def earlierReceipt : TransitionReceipt where
  version := 1
  eventSchemaVersion := 1
  workflowKind := .chain
  workflowID := "chain"
  workflowDispatchID := "earlier"
  workflowCreatedAt := 0
  memberID := "first"
  outcome := .succeeded
  owner :=
    { deliveryID := "generation", dispatchID := "dispatch", jobID := "job",
      jobFingerprint := some { jobType := "a" } }
  aggregateCompleted := false
  aggregateCancelled := false
  createdAt := 0

/-- Surroundings in which the memory store presents one chain and one
receipt. -/
def presentingChain (state : ChainState) (receipt : TransitionReceipt) :
    Environment Op Op.Answer where
  answers
    | .memory (.getChain _) => fun answer => answer = .ok state
    | .memory (.chainTransitionReceipt _ _) => fun answer => answer = .ok (some receipt)
    | _ => fun _ => True
  total := by
    intro operation
    split
    · exact ⟨_, rfl⟩
    · exact ⟨_, rfl⟩
    · exact (Op.nonempty_answer operation).elim fun answer => ⟨answer, trivial⟩

theorem chain_recovery_fails_closed_earlier_receipt :
    ∃ log result, Logs (presentingChain advancedChain earlierReceipt)
        (handleInternalChainNode { store := MemoryStore.methods }
          recoveringContext firstNodeEnvelope) log result ∧
        (∀ entry ∈ log, entry.1.stored = true) ∧
        ∀ attempt, classifyAttempt attempt result = .redeliver := by
  have presents : PresentsChain (presentingChain advancedChain earlierReceipt)
      MemoryStore.methods firstNodeEnvelope advancedChain
      (some (.ok (some earlierReceipt))) := by
    refine ⟨Ensures.perform fun _ allowed => allowed, rfl, ?_⟩
    rintro _ _ ⟨⟩ ⟨⟩
    exact Ensures.perform fun _ allowed => allowed
  have disagrees : ChainDisagreement firstNodeEnvelope advancedChain
      (some (.ok (some earlierReceipt))) := by
    refine .success 0 ⟨rfl, by decide⟩ (.inr ⟨earlierReceipt, rfl, ?_⟩)
    intro proves
    exact absurd proves.agrees.workflowDispatchID (by decide)
  obtain ⟨⟨log, result, runs⟩, closed, _⟩ := chain_recovery_fails_closed
    (r := { store := MemoryStore.methods }) MemoryStore.methods_passive
    (show recoveredDeliveryProvenance recoveringContext = some _ from rfl)
    firstNodeEnvelope (presentingChain advancedChain earlierReceipt)
  obtain ⟨stored, redelivered⟩ := closed _ _ presents disagrees log result runs
  exact ⟨log, result, runs, stored, redelivered⟩

end JobQueue.Workflow
