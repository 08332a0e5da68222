import JobQueue.Machines.Replay
import JobQueue.Workflow.Store.ChainTransitions

/-!
# Runs of the memory store on chains

A run is any list of mutating calls on chains, from the empty store. One call
relates the chain stored under an identifier to the chain stored there
afterwards in one of four ways (`ChainStep`). Well-formedness of every stored
chain and the order of the claimed transitions follow by induction on the run.
-/

namespace JobQueue.Workflow

/-- A mutating call on chains, with the clock reading it takes. -/
inductive ChainCall
  | createChain (record : ChainRecord) (now : Time)
  | advanceChainOutcome (chainID nodeID : String) (claim : TransitionClaim) (now : Time)
  | failChainOutcome (chainID nodeID : String) (cause : Option GoError)
      (claim : TransitionClaim) (now : Time)
  | failChain (chainID : String) (cause : Option GoError) (now : Time)
  | prune (before : Time)
  | discardChain (chainID : String)

namespace ChainCall

/-- The store a call leaves behind. -/
def apply (store : MemoryStore) : ChainCall -> MemoryStore
  | .createChain record now => (store.createChain record now).2
  | .advanceChainOutcome chainID nodeID claim now =>
    (store.advanceChainOutcome chainID nodeID claim now).2
  | .failChainOutcome chainID nodeID cause claim now =>
    (store.failChainOutcome chainID nodeID cause claim now).2
  | .failChain chainID cause now => (store.failChain chainID cause now).2
  | .prune before => store.prune before
  | .discardChain chainID => store.discardChain chainID

/-- The transition of one chain for which a call returns `claimedNow`. -/
def claimed (store : MemoryStore) (chainID : String) : ChainCall -> Option ChainTransition
  | .advanceChainOutcome target nodeID claim now =>
    match (store.advanceChainOutcome target nodeID claim now).1 with
    | .ok result =>
      if target = chainID ∧ result.claimedNow = true then
        some (.success nodeID)
      else none
    | .error _ => none
  | .failChainOutcome target nodeID cause claim now =>
    match (store.failChainOutcome target nodeID cause claim now).1 with
    | .ok result =>
      if target = chainID ∧ result.claimedNow = true then
        some (.failure nodeID)
      else none
    | .error _ => none
  | _ => none

/-- A call that installs a fresh chain under an identifier. -/
def creates (chainID : String) : ChainCall -> Prop
  | .createChain record _ => record.chainID = chainID ∧ validateChainRecord record = none
  | _ => False

instance (chainID : String) (call : ChainCall) : Decidable (call.creates chainID) := by
  cases call <;> unfold creates <;> infer_instance

end ChainCall

namespace MemoryStore

/-- The store after a list of calls. -/
def runChains (store : MemoryStore) (calls : List ChainCall) : MemoryStore :=
  Replay.run ChainCall.apply store calls

/-- Transitions of one chain claimed by a list of calls, in call order. -/
def claimedTransitions (chainID : String) (store : MemoryStore) (calls : List ChainCall) :
    List ChainTransition :=
  Replay.outputs ChainCall.apply (fun state call => call.claimed state chainID) store calls

/-- No call re-creates the chain, and none removes it. -/
def Undisturbed (chainID : String) (store : MemoryStore) (calls : List ChainCall) : Prop :=
  Replay.History ChainCall.apply (fun state call =>
      ¬call.creates chainID ∧ ((call.apply state).chains chainID).isSome = true)
    store calls

instance (chainID : String) (store : MemoryStore) (calls : List ChainCall) :
    Decidable (Undisturbed chainID store calls) :=
  Replay.decidableHistory _ _ store calls

end MemoryStore

/-! ## Stored chains -/

/-- A well-formed stored chain: its state is ordered, and exactly the nodes
before the next index have a recorded success. -/
structure MemoryChain.Sound (chain : MemoryChain) : Prop where
  ordered : chain.state.Ordered
  completedNode_iff : ∀ nodeID, chain.completedNode nodeID = true ↔ ∃ index : Nat,
      (index : Int) < chain.state.nextIndex ∧
      (chain.state.nodes[index]?).map (·.nodeID) = some nodeID

/-- How one call can change a stored chain, and what it claims of it. -/
inductive ChainStep (chain : MemoryChain) : Option ChainTransition -> MemoryChain -> Prop
  | kept : ChainStep chain none chain
  | succeeded (nodeID : String) (now : Time) (current : chain.state.IsCurrent nodeID) :
      ChainStep chain (some (.success nodeID))
        { state := chain.state.advance now
          completedNode := Function.update chain.completedNode nodeID true }
  | failed (nodeID : String) (cause : Option GoError) (now : Time)
      (current : chain.state.IsCurrent nodeID) :
      ChainStep chain (some (.failure nodeID)) { chain with state := chain.state.fail cause now }
  | abandoned (cause : Option GoError) (now : Time) (running : chain.state.terminal = false) :
      ChainStep chain none { chain with state := chain.state.fail cause now }

namespace MemoryStore

/-- Every stored chain is well formed. -/
def ChainsSound (store : MemoryStore) : Prop :=
  ∀ chainID chain, store.chains chainID = some chain -> chain.Sound

/-- A valid record replaces the chain stored under its identifier. -/
theorem createChain_chains (store : MemoryStore) (now : Time)
    (valid : validateChainRecord record = none) :
    (store.createChain record now).2.chains =
      Function.update store.chains record.chainID (some (createdChain record now)) := by
  simp [createChain, valid, createdChain]

/-- An invalid record leaves the store alone. -/
theorem createChain_of_error
    (store : MemoryStore) (invalid : validateChainRecord record = some error) :
    store.createChain record now = (some error, store) := by
  simp [createChain, invalid]

/-- Claiming a success replaces the stored chain and no other. -/
theorem claimSuccess_chains (store : MemoryStore) :
    (store.claimSuccess chain chainID nodeID claim now).2.chains =
      Function.update store.chains chainID (some
          { state := chain.state.advance now
            completedNode :=
              Function.update chain.completedNode nodeID true }) := by
  simp [claimSuccess]

end MemoryStore

namespace ChainCall

open MemoryStore

variable {store : MemoryStore} {chainID : String}

/-- A chain stored after a call was created by it or made one of the listed
steps. -/
theorem stored_cases (sound : store.ChainsSound) (call : ChainCall)
    (stored : (call.apply store).chains chainID = some after) :
    (call.creates chainID ∧ ∃ record now, record.chainID = chainID ∧
        validateChainRecord record = none ∧ after = createdChain record now) ∨
      ∃ chain, store.chains chainID = some chain ∧
        ChainStep chain (call.claimed store chainID) after := by
  have keeps (unclaimed : call.claimed store chainID = none)
      (kept : store.chains chainID = some after) :
      ∃ chain, store.chains chainID = some chain ∧
        ChainStep chain (call.claimed store chainID) after :=
    ⟨after, kept, unclaimed ▸ .kept⟩
  cases call with
  | createChain record now =>
    simp only [apply] at stored
    cases checked : validateChainRecord record with
    | some error =>
      rw [createChain_of_error store checked] at stored
      exact .inr (keeps rfl stored)
    | none =>
      rw [createChain_chains store now checked] at stored
      rcases KeyedList.update_eq_some stored with ⟨rfl, rfl⟩ | ⟨_, kept⟩
      · exact .inl ⟨⟨rfl, checked⟩, record, now, rfl, checked, rfl⟩
      · exact .inr (keeps rfl kept)
  | advanceChainOutcome target nodeID claim now =>
    right
    simp only [apply, claimed] at stored keeps ⊢
    cases present : store.chains target with
    | none =>
      simp only [MemoryStore.advanceChainOutcome, present] at stored keeps ⊢
      exact keeps trivial stored
    | some chain =>
      have outcome := advanceChainOutcome_cases present
        (sound target chain present).ordered nodeID claim now
      generalize store.advanceChainOutcome target nodeID claim now = answer
        at outcome stored keeps ⊢
      cases outcome with
      | refused => exact keeps rfl stored
      | foreign | replayed => exact keeps (by simp) stored
      | claimed current =>
        rw [claimSuccess_chains] at stored
        rcases KeyedList.update_eq_some stored with ⟨rfl, rfl⟩ | ⟨other, kept⟩
        · exact ⟨chain, present, by simpa using .succeeded nodeID now current⟩
        · exact keeps (by simp [Ne.symm other]) kept
  | failChainOutcome target nodeID cause claim now =>
    right
    simp only [apply, claimed] at stored keeps ⊢
    cases present : store.chains target with
    | none =>
      simp only [MemoryStore.failChainOutcome, present] at stored keeps ⊢
      exact keeps trivial stored
    | some chain =>
      have outcome := failChainOutcome_cases present
        (sound target chain present).ordered nodeID cause claim now
      generalize store.failChainOutcome target nodeID cause claim now = answer
        at outcome stored keeps ⊢
      cases outcome with
      | refused => exact keeps rfl stored
      | foreign | completed | replayed => exact keeps (by simp) stored
      | claimed current =>
        rw [claimFailure, recordTransitionReceipt_chains, setChain_chains] at stored
        rcases KeyedList.update_eq_some stored with ⟨rfl, rfl⟩ | ⟨other, kept⟩
        · exact ⟨chain, present, by simpa using .failed nodeID cause now current⟩
        · exact keeps (by simp [Ne.symm other]) kept
  | failChain target cause now =>
    right
    simp only [apply] at stored
    cases present : store.chains target with
    | none =>
      rw [MemoryStore.failChain, present] at stored
      exact keeps rfl stored
    | some chain =>
      rcases failChain_cases present cause now with ⟨running, equation⟩ | ⟨_, equation⟩
      · rw [equation, setChain_chains] at stored
        rcases KeyedList.update_eq_some stored with ⟨rfl, rfl⟩ | ⟨_, kept⟩
        · exact ⟨chain, present, .abandoned cause now running⟩
        · exact keeps rfl kept
      · rw [equation] at stored
        exact keeps rfl stored
  | prune before => exact .inr (keeps rfl (Option.filter_eq_some_iff.mp stored).1)
  | discardChain target =>
    right
    by_cases same : chainID = target
    · simp [apply, MemoryStore.discardChain, same] at stored
    · exact keeps rfl (by simpa [apply, MemoryStore.discardChain, same] using stored)

/-- A chain that survives a call made one of the listed steps. -/
theorem step (sound : store.ChainsSound) {call : ChainCall}
    (stored : store.chains chainID = some chain) (notCreated : ¬call.creates chainID)
    (survives : (call.apply store).chains chainID = some after) :
    ChainStep chain (call.claimed store chainID) after := by
  obtain ⟨before, present, step⟩ := (call.stored_cases sound survives).resolve_left
    fun created => notCreated created.1
  rw [stored, Option.some_inj] at present
  exact present ▸ step

end ChainCall

/-! ## Well-formedness along runs -/

namespace ChainState

/-- The current node sits at the next index. -/
theorem IsCurrent.getElem?_eq {state : ChainState} (current : state.IsCurrent nodeID) :
    (state.nodes[state.nextIndex.toNat]?).map (·.nodeID) = some nodeID := by
  obtain ⟨_, index, found, atIndex⟩ := current
  have position : state.nextIndex.toNat = index := by omega
  rw [position, ← List.getElem?_map]
  exact getElem?_of_chainNodePosition found

end ChainState

/-- A freshly created chain is well formed. -/
theorem createdChain_sound (now : Time) (valid : validateChainRecord record = none) :
    (MemoryStore.createdChain record now).Sound := by
  have nonempty := (validateChainRecord_eq_none valid).2.1
  have positive : 0 < record.nodes.length := List.length_pos_iff.mpr nonempty
  refine ⟨⟨valid, Int.le_refl 0, ?_, ?_, by simp [MemoryStore.createdChain]⟩, ?_⟩
  · simp [MemoryStore.createdChain]
  · simp only [MemoryStore.createdChain, ChainRecord.start, Bool.false_eq_true, false_iff]
    omega
  · intro nodeID
    simp only [MemoryStore.createdChain, ChainRecord.start, Bool.false_eq_true, false_iff]
    rintro ⟨index, before, _⟩
    omega

/-- A step keeps a stored chain well formed. -/
theorem ChainStep.sound (step : ChainStep chain transition after) (sound : chain.Sound) :
    after.Sound := by
  cases step with
  | kept => exact sound
  | succeeded nodeID now current =>
    refine ⟨sound.ordered.advance current.1, ?_⟩
    intro other
    have nonneg := sound.ordered.nextIndex_nonneg
    have here := current.getElem?_eq
    simp only [Function.update_apply, ChainState.advance]
    constructor
    · intro recorded
      by_cases same : other = nodeID
      · exact ⟨chain.state.nextIndex.toNat, by omega, same ▸ here⟩
      · rw [if_neg same] at recorded
        obtain ⟨index, before, found⟩ := (sound.completedNode_iff other).mp recorded
        exact ⟨index, by omega, found⟩
    · rintro ⟨index, before, found⟩
      by_cases same : other = nodeID
      · rw [if_pos same]
      · rw [if_neg same]
        refine (sound.completedNode_iff other).mpr ⟨index, ?_, found⟩
        by_contra notBefore
        have position : index = chain.state.nextIndex.toNat := by omega
        rw [position, here, Option.some_inj] at found
        exact same found.symm
  | failed nodeID cause now current => exact ⟨sound.ordered.fail current.1, sound.completedNode_iff⟩
  | abandoned cause now running => exact ⟨sound.ordered.fail running, sound.completedNode_iff⟩

namespace MemoryStore

variable {store : MemoryStore}

/-- One call keeps every stored chain well formed. -/
theorem ChainsSound.apply (sound : store.ChainsSound) (call : ChainCall) :
    (call.apply store).ChainsSound := by
  intro chainID after stored
  rcases call.stored_cases sound stored with ⟨_, record, now, _, valid, rfl⟩ | ⟨chain, before, step⟩
  · exact createdChain_sound now valid
  · exact step.sound (sound chainID chain before)

/-- Every run keeps every stored chain well formed. -/
theorem ChainsSound.runChains (sound : store.ChainsSound) : (store.runChains calls).ChainsSound :=
  Replay.run_invariant (fun _ call soundHere => soundHere.apply call) sound

theorem chainsSound_empty : empty.ChainsSound := by
  intro chainID chain stored
  exact absurd stored (by simp [empty])

end MemoryStore

/-! ## Order of the claimed transitions -/

/-- The successes of the first nodes in order, then at most one failure, which
is for the node after them. -/
def ClaimedInOrder (nodes : List ChainNode) (nextIndex : Nat)
    (transitions : List ChainTransition) : Prop :=
  ∃ failures,
    transitions = (nodes.take nextIndex).map (fun node => .success node.nodeID) ++ failures ∧
    (failures = [] ∨ ∃ node, nodes[nextIndex]? = some node ∧ failures = [.failure node.nodeID])

/-- What is known of a chain and of the transitions claimed since it was
created. -/
structure ChainProgress (nodes : List ChainNode) (chain : MemoryChain)
    (transitions : List ChainTransition) : Prop where
  sound : chain.Sound
  nodes_eq : chain.state.nodes = nodes
  ordered : ClaimedInOrder nodes chain.state.nextIndex.toNat transitions
  active : chain.state.terminal = false ->
    transitions = (nodes.take chain.state.nextIndex.toNat).map (fun node => .success node.nodeID)

/-- One step extends the claimed transitions in order. -/
theorem ChainProgress.step (progress : ChainProgress nodes chain transitions)
    (step : ChainStep chain transition after) :
    ChainProgress nodes after (transitions ++ transition.toList) := by
  have afterSound := step.sound progress.sound
  cases step with
  | kept =>
    rw [Option.toList_none, List.append_nil]
    exact progress
  | succeeded nodeID now current =>
    have nonneg := progress.sound.ordered.nextIndex_nonneg
    have here := current.getElem?_eq
    rw [progress.nodes_eq, Option.map_eq_some_iff] at here
    obtain ⟨node, atIndex, sameID⟩ := here
    have extended : transitions ++ [ChainTransition.success nodeID] =
        (nodes.take (chain.state.nextIndex + 1).toNat).map (fun node => .success node.nodeID) := by
      have next : (chain.state.nextIndex + 1).toNat = chain.state.nextIndex.toNat + 1 := by omega
      rw [progress.active current.1, next, List.take_add_one, atIndex,
        List.map_append, Option.toList_some, List.map_singleton, sameID]
    refine ⟨afterSound, progress.nodes_eq, ⟨[], ?_, .inl rfl⟩, ?_⟩
    · rw [List.append_nil]
      exact extended
    · intro _
      exact extended
  | failed nodeID cause now current =>
    have here := current.getElem?_eq
    rw [progress.nodes_eq, Option.map_eq_some_iff] at here
    obtain ⟨node, atIndex, sameID⟩ := here
    refine ⟨afterSound, progress.nodes_eq, ?_, ?_⟩
    · refine ⟨[.failure nodeID], ?_, .inr ⟨node, atIndex, by rw [sameID]⟩⟩
      rw [Option.toList_some, progress.active current.1]
      rfl
    · intro running
      exact absurd running (by simp [ChainState.terminal, ChainState.fail])
  | abandoned cause now running =>
    rw [Option.toList_none, List.append_nil]
    refine ⟨afterSound, progress.nodes_eq, progress.ordered, ?_⟩
    intro stillRunning
    exact absurd stillRunning (by simp [ChainState.terminal, ChainState.fail])

/-- The part of a chain that a terminal chain never changes. -/
def ChainState.outcome (state : ChainState) : Int × Bool × Bool × String :=
  (state.nextIndex, state.completed, state.failed, state.failure)

/-- A terminal chain makes no step that changes its outcome. -/
theorem ChainStep.outcome_eq (step : ChainStep chain transition after)
    (ended : chain.state.terminal = true) :
    after.state.outcome = chain.state.outcome := by
  cases step with
  | kept => rfl
  | succeeded nodeID now current => exact absurd ended (by simp [current.1])
  | failed nodeID cause now current => exact absurd ended (by simp [current.1])
  | abandoned cause now running => exact absurd ended (by simp [running])

namespace MemoryStore

namespace Undisturbed

/-- While a chain is undisturbed its progress is kept. -/
theorem progress (undisturbed : Undisturbed chainID store calls) (sound : store.ChainsSound)
    (stored : store.chains chainID = some chain) (start : ChainProgress nodes chain []) :
    ∃ final, (store.runChains calls).chains chainID = some final ∧
      ChainProgress nodes final (claimedTransitions chainID store calls) := by
  refine (Replay.History.invariant (fun state call => call.claimed state chainID)
    (fun _ given state =>
      state.ChainsSound ∧ ∃ chain, state.chains chainID = some chain ∧
        ChainProgress nodes chain given)
    ?_ undisturbed ⟨sound, chain, stored, start⟩).2
  rintro made given state call ⟨notCreated, survives⟩
    ⟨soundHere, before, storedBefore, progressBefore⟩
  obtain ⟨after, storedAfter⟩ := Option.isSome_iff_exists.mp survives
  have step := call.step soundHere storedBefore notCreated storedAfter
  exact ⟨soundHere.apply call, after, storedAfter, progressBefore.step step⟩

/-- While a terminal chain is undisturbed its outcome is kept. -/
theorem outcome_eq (undisturbed : Undisturbed chainID store calls) (sound : store.ChainsSound)
    (stored : store.chains chainID = some chain) (ended : chain.state.terminal = true) :
    ∃ final, (store.runChains calls).chains chainID = some final ∧
      final.state.outcome = chain.state.outcome := by
  refine (Replay.History.invariant (fun state call => call.claimed state chainID) (fun _ _ state =>
      state.ChainsSound ∧ ∃ final, state.chains chainID = some final ∧
        final.state.outcome = chain.state.outcome)
    ?_ undisturbed ⟨sound, chain, stored, rfl⟩).2
  rintro made given state call ⟨notCreated, survives⟩ ⟨soundHere, before, storedBefore, same⟩
  obtain ⟨after, storedAfter⟩ := Option.isSome_iff_exists.mp survives
  have step := call.step soundHere storedBefore notCreated storedAfter
  have endedHere : before.state.terminal = true := by
    simp only [ChainState.outcome, Prod.mk.injEq] at same
    rwa [ChainState.terminal, same.2.1, same.2.2.1]
  exact ⟨soundHere.apply call, after, storedAfter, (step.outcome_eq endedHere).trans same⟩

end Undisturbed

/-- A chain starts with nothing claimed. -/
theorem ChainProgress.created (valid : validateChainRecord record = none) :
    ChainProgress record.nodes (createdChain record now) [] := by
  refine ⟨createdChain_sound now valid, rfl, ⟨[], ?_, .inl rfl⟩, ?_⟩
  · simp [createdChain]
  · intro _
    simp [createdChain]

/-- Every stored chain of every run is well formed. Between its creation and
its re-creation or removal the claimed transitions of a chain are the successes
of its nodes in order, each once, then at most one failure of the next node;
and once it is completed or failed its outcome never changes again. -/
theorem chains_settle_in_order :
    (∀ (calls : List ChainCall) (chainID : String) (chain : MemoryChain),
      (empty.runChains calls).chains chainID = some chain ->
        (0 ≤ chain.state.nextIndex ∧ chain.state.nextIndex ≤ chain.state.nodes.length) ∧
        (chain.state.completed = true ↔ chain.state.nextIndex = chain.state.nodes.length) ∧
        ¬(chain.state.completed = true ∧ chain.state.failed = true) ∧
        ∀ nodeID, chain.completedNode nodeID = true ↔
          ∃ index : Nat, (index : Int) < chain.state.nextIndex ∧
            (chain.state.nodes[index]?).map (·.nodeID) = some nodeID) ∧
    (∀ (before during : List ChainCall) (record : ChainRecord) (now : Time) (created : MemoryStore),
      validateChainRecord record = none ->
      created = empty.runChains (before ++ [.createChain record now]) ->
      Undisturbed record.chainID created during ->
        ∃ chain, (created.runChains during).chains record.chainID = some chain ∧
          chain.state.nodes = record.nodes ∧
          ClaimedInOrder record.nodes chain.state.nextIndex.toNat
            (claimedTransitions record.chainID created during)) ∧
    (∀ (before during : List ChainCall) (chainID : String) (chain : MemoryChain),
      (empty.runChains before).chains chainID = some chain ->
      (chain.state.completed = true ∨ chain.state.failed = true) ->
      Undisturbed chainID (empty.runChains before) during ->
        ∃ final, (empty.runChains (before ++ during)).chains chainID = some final ∧
          final.state.nextIndex = chain.state.nextIndex ∧
          final.state.completed = chain.state.completed ∧
          final.state.failed = chain.state.failed ∧
          final.state.failure = chain.state.failure) := by
  refine ⟨?_, ?_, ?_⟩
  · intro calls chainID chain stored
    have sound := chainsSound_empty.runChains chainID chain stored
    exact ⟨⟨sound.ordered.nextIndex_nonneg, sound.ordered.nextIndex_le⟩,
      sound.ordered.completed_iff, sound.ordered.not_both, sound.completedNode_iff⟩
  · intro before during record now created valid createdEq undisturbed
    have sound : created.ChainsSound := by
      rw [createdEq]
      exact chainsSound_empty.runChains
    have stored : created.chains record.chainID = some (createdChain record now) := by
      rw [createdEq, runChains, Replay.run_append]
      exact (congrFun (createChain_chains _ now valid) record.chainID).trans
        (Function.update_self _ _ _)
    obtain ⟨final, storedFinal, progress⟩ :=
      undisturbed.progress sound stored (ChainProgress.created valid)
    exact ⟨final, storedFinal, progress.nodes_eq, progress.ordered⟩
  · intro before during chainID chain stored ended undisturbed
    have terminal : chain.state.terminal = true := by
      rw [ChainState.terminal, Bool.or_eq_true]
      exact ended
    obtain ⟨final, storedFinal, same⟩ := undisturbed.outcome_eq
      chainsSound_empty.runChains stored terminal
    simp only [ChainState.outcome, Prod.mk.injEq] at same
    refine ⟨final, ?_, same⟩
    rw [runChains, Replay.run_append]
    exact storedFinal

/-- A chain of two nodes. -/
def twoNodeRecord : ChainRecord where
  chainID := "chain"
  dispatchID := "dispatch"
  queue := ""
  nodes :=
    [{ nodeID := "first", job := { jobType := "extract" } },
      { nodeID := "second", job := { jobType := "load" } }]
  createdAt := 0

/-- The order of claims at work on a chain whose first node succeeds twice and
whose second node fails, while another chain is discarded. -/
theorem chains_settle_in_order_two_nodes :
    ∃ chain, ((empty.runChains [.createChain twoNodeRecord 0]).runChains
        [.advanceChainOutcome "chain" "first" {} 1, .discardChain "other",
          .advanceChainOutcome "chain" "first" {} 2,
          .failChainOutcome "chain" "second" none {} 3,
          .advanceChainOutcome "chain" "second" {} 4]).chains "chain" =
        some chain ∧
      chain.state.nodes = twoNodeRecord.nodes ∧
      ClaimedInOrder twoNodeRecord.nodes chain.state.nextIndex.toNat
        [.success "first", .failure "second"] :=
  chains_settle_in_order.2.1 [] [.advanceChainOutcome "chain" "first" {} 1, .discardChain "other",
    .advanceChainOutcome "chain" "first" {} 2, .failChainOutcome "chain" "second" none {} 3,
    .advanceChainOutcome "chain" "second" {} 4] twoNodeRecord 0 _ rfl rfl (by decide)

end MemoryStore

end JobQueue.Workflow
