import JobQueue.Workflow.Runs.Ledger
import JobQueue.Workflow.Store.ChainRuns

/-!
# Chains of the memory store under the engine

Every call that the engine makes on the memory store is one of the calls whose
runs were studied for the store alone, or leaves the chains as they are. The
stored chains therefore stay sound, and a stored chain only moves forward.
-/

namespace JobQueue.Workflow

open Interleaving

/-- One state of a chain is a later state of another. -/
structure ChainState.Precedes (earlier later : ChainState) : Prop where
  nodes : later.nodes = earlier.nodes
  dispatchID : later.dispatchID = earlier.dispatchID
  nextIndex : earlier.nextIndex ≤ later.nextIndex
  terminal : earlier.terminal = true -> later.terminal = true ∧ later.nextIndex = earlier.nextIndex

namespace ChainState.Precedes

theorem refl (state : ChainState) : state.Precedes state :=
  ⟨rfl, rfl, Int.le_refl _, fun ended => ⟨ended, rfl⟩⟩

theorem trans {first : ChainState} (before : first.Precedes second)
    (after : second.Precedes third) :
    first.Precedes third where
  nodes := after.nodes.trans before.nodes
  dispatchID := after.dispatchID.trans before.dispatchID
  nextIndex := Int.le_trans before.nextIndex after.nextIndex
  terminal := fun ended =>
    ⟨(after.terminal (before.terminal ended).1).1,
      ((after.terminal (before.terminal ended).1).2).trans (before.terminal ended).2⟩

end ChainState.Precedes

/-- A step of a stored chain moves it forward. -/
theorem ChainStep.precedes (step : ChainStep chain transition after) :
    chain.state.Precedes after.state := by
  cases step with
  | kept => exact .refl _
  | succeeded nodeID now current =>
    refine ⟨rfl, rfl, ?_, ?_⟩
    · show chain.state.nextIndex ≤ chain.state.nextIndex + 1
      omega
    · simp [current.1]
  | failed nodeID cause now current =>
    refine ⟨rfl, rfl, Int.le_refl _, ?_⟩
    simp [current.1]
  | abandoned cause now running =>
    refine ⟨rfl, rfl, Int.le_refl _, ?_⟩
    simp [running]

/-- The chain call that a method of the memory store is. -/
def MemoryCall.chainCall? (now : Time) : MemoryCall -> Option ChainCall
  | .createChain record => some (.createChain record now)
  | .advanceChainOutcome chainID nodeID claim =>
    some (.advanceChainOutcome chainID nodeID claim now)
  | .failChainOutcome chainID nodeID cause claim =>
    some (.failChainOutcome chainID nodeID cause claim now)
  | .failChain chainID cause => some (.failChain chainID cause now)
  | _ => none

/-- The store after the chain part of a method. -/
theorem MemoryCall.run_chains (store : MemoryStore) (call : MemoryCall) :
    (call.run store now).2.chains = ((call.chainCall? now).elim store fun chainCall =>
        chainCall.apply store).chains := by
  cases call with
  | settleBatchOutcome | createBatch | markBatchJobStarted | cancelBatch => simp [run, chainCall?]
  | markCallbackInvoked key =>
    simp only [run, MemoryStore.markCallbackInvoked]
    split <;> rfl
  | _ => rfl

/-- Only an advance claims the success of a node. -/
theorem MemoryCall.of_claimed_success {call : MemoryCall} {id : String}
    (claimed : (call.chainCall? now).bind (·.claimed store id) = some (.success nodeID)) :
    ∃ claim, call = .advanceChainOutcome id nodeID claim := by
  cases call with
  | advanceChainOutcome target node claim =>
    simp only [chainCall?, Option.bind_some, ChainCall.claimed] at claimed
    split at claimed
    · split at claimed
      · rename_i same
        cases claimed
        exact ⟨claim, by rw [same.1]⟩
      · cases claimed
    · cases claimed
  | failChainOutcome target node cause claim =>
    simp only [chainCall?, Option.bind_some, ChainCall.claimed] at claimed
    split at claimed
    · split at claimed <;> cases claimed
    · cases claimed
  | _ => cases claimed

namespace MemoryStore

/-- A method keeps every stored chain sound. -/
theorem ChainsSound.run (sound : store.ChainsSound) (call : MemoryCall) :
    (call.run store now).2.ChainsSound := by
  unfold ChainsSound
  rw [call.run_chains store]
  cases call.chainCall? now with
  | none => exact sound
  | some chainCall => exact sound.apply chainCall

/-- A method that does not create a stored chain makes a step of it. -/
theorem ChainsSound.step (sound : store.ChainsSound) (now : Time) {id : String}
    (stored : store.chains id = some chain) (uncreated : (Op.memory call).createsChain ≠ some id) :
    ∃ after, (call.run store now).2.chains id = some after ∧ ChainStep chain
        ((call.chainCall? now).bind (·.claimed store id)) after := by
  rw [call.run_chains store]
  cases listed : call.chainCall? now with
  | none => exact ⟨chain, stored, .kept⟩
  | some chainCall =>
    have survives : ((chainCall.apply store).chains id).isSome = true := by
      have effect := chainEffect_memory store now call id
      have found : store.states id = some chain.state := by simp [states, stored]
      have kept : (call.run store now).2.states id ≠ none := by
        rcases effect with same | ⟨_, changed⟩ | ⟨creates, _⟩
        · rw [same, found]
          exact Option.some_ne_none _
        · exact changed.ne_none_iff.mp (by simp [found])
        · exact absurd creates uncreated
      rw [states, call.run_chains store, listed] at kept
      simpa [Option.isSome_iff_ne_none] using kept
    obtain ⟨after, found⟩ := Option.isSome_iff_exists.mp survives
    refine ⟨after, found, chainCall.step sound stored ?_ found⟩
    intro creates
    cases chainCall with
    | createChain record at_ =>
      cases call <;> cases listed
      exact uncreated (congrArg some creates.1)
    | _ => exact creates.elim

end MemoryStore

/-! ## Under the engine -/

/-- The world runs over a memory store with sound chains. -/
def World.SoundChains (w : World) : Prop :=
  ∃ store, w.backend = .memory store ∧ store.ChainsSound

section Executed

variable {w : World} {operation : Op} {answer : operation.Answer} (sound : w.SoundChains)

include sound

/-- A method runs on the memory store. -/
theorem World.SoundChains.exec_memory {answer : call.Answer}
    (executed : World.exec label w (.memory call) choice = some (some answer, after)) :
    ∃ store, w.backend = .memory store ∧ store.ChainsSound ∧ answer = (call.run store w.clock).1 ∧
      after = w.commit label call.target (.memory (call.run store w.clock).2) := by
  obtain ⟨store, found, sound⟩ := sound
  obtain ⟨same, backend, answered, kept⟩ := World.exec_memory executed
  rw [found] at backend
  cases backend
  exact ⟨store, found, sound, answered, kept⟩

/-- No statement is answered over a memory store. -/
theorem World.SoundChains.exec_sql {answer : statement.Answer} :
    World.exec label w (.sql statement) choice ≠ some (some answer, after) := by
  intro executed
  obtain ⟨store, found, _⟩ := sound
  obtain ⟨db, _, backend, _⟩ := World.exec_sql executed
  rw [found] at backend
  cases backend

variable (executed : World.exec label w operation choice = some (some answer, after))

include executed

/-- An operation calls a method of the store or leaves the store alone. -/
theorem World.SoundChains.exec_cases :
    (∃ call, operation = .memory call) ∨ after.backend = w.backend := by
  cases operation with
  | memory call => exact .inl ⟨call, rfl⟩
  | sql statement => exact absurd executed sound.exec_sql
  | _ => exact .inr ((World.exec_touched executed).backend nofun)

theorem World.SoundChains.exec : after.SoundChains := by
  rcases sound.exec_cases executed with ⟨call, rfl⟩ | same
  · obtain ⟨store, _, sound, _, rfl⟩ := sound.exec_memory executed
    exact ⟨_, rfl, sound.run call⟩
  · obtain ⟨store, found, sound⟩ := sound
    exact ⟨store, same.trans found, sound⟩

/-- A stored chain that is not created anew moves forward. -/
theorem World.exec_precedes {id : String} (stored : w.backend.chain id = some state)
    (uncreated : operation.createsChain ≠ some id) :
    ∃ later, after.backend.chain id = some later ∧ state.Precedes later := by
  rcases sound.exec_cases executed with ⟨call, rfl⟩ | same
  · obtain ⟨store, found, sound, _, rfl⟩ := sound.exec_memory executed
    rw [found] at stored
    obtain ⟨chain, present, rfl⟩ := Option.map_eq_some_iff.mp stored
    obtain ⟨later, kept, step⟩ := sound.step w.clock present uncreated
    refine ⟨later.state, ?_, step.precedes⟩
    simp [Backend.chain, kept]
  · exact ⟨state, same ▸ stored, .refl state⟩

/-- The next index moves only when the success of the current node is
claimed. -/
theorem World.exec_nextIndex {id : String} (stored : w.backend.chain id = some state)
    (kept : after.backend.chain id = some later) (uncreated : operation.createsChain ≠ some id) :
    later.nextIndex = state.nextIndex ∨ ∃ nodeID claim,
        operation = .memory (.advanceChainOutcome id nodeID claim) ∧ state.IsCurrent nodeID ∧
        later.nextIndex = state.nextIndex + 1 := by
  rcases sound.exec_cases executed with ⟨call, rfl⟩ | same
  · obtain ⟨store, found, sound, _, rfl⟩ := sound.exec_memory executed
    rw [found] at stored
    obtain ⟨chain, present, rfl⟩ := Option.map_eq_some_iff.mp stored
    obtain ⟨next, survives, step⟩ := sound.step w.clock present uncreated
    obtain rfl : next.state = later := by
      simpa [Backend.chain, survives] using kept
    generalize claimed : (call.chainCall? w.clock).bind (·.claimed store id) = transition at step
    cases step with
    | succeeded nodeID now current =>
      obtain ⟨claim, rfl⟩ := MemoryCall.of_claimed_success claimed
      exact .inr ⟨nodeID, claim, rfl, current, rfl⟩
    | _ => exact .inl rfl
  · rw [same, stored] at kept
    cases kept
    exact .inl rfl

end Executed

/-- The stored chain, if there is one, is a later state of one stored
before. -/
def World.Continues (chainID : String) (before after : World) : Prop :=
  ∀ later, after.backend.chain chainID = some later ->
    ∃ state, before.backend.chain chainID = some state ∧ state.Precedes later

variable {w : World}

/-- An operation that does not create a chain continues it. -/
theorem World.Continues.exec (sound : w.SoundChains)
    (executed : World.exec label w operation choice = some (some answer, after))
    (uncreated : operation.createsChain ≠ some chainID) :
    World.Continues chainID w after := by
  intro later stored
  have before : w.backend.chain chainID ≠ none := by
    have kept : after.backend.chain chainID ≠ none := by simp [stored]
    rcases exec_chain_ne_none executed kept with earlier | created
    · exact earlier
    · exact absurd created uncreated
  obtain ⟨state, found⟩ := Option.ne_none_iff_exists'.mp before
  obtain ⟨next, kept, precedes⟩ := World.exec_precedes sound executed found uncreated
  obtain rfl : next = later := Option.some.inj (kept.symm.trans stored)
  exact ⟨state, found, precedes⟩

theorem World.Continues.aside (aside : before.Aside after) :
    World.Continues chainID before after := by
  intro later stored
  rcases aside.chain chainID with same | gone
  · exact ⟨later, same.symm.trans stored, .refl later⟩
  · cases gone.symm.trans stored

/-! ## Calls on chains -/

section Calls

variable (sound : w.SoundChains)

include sound

/-- Every stored chain is ordered. -/
theorem World.SoundChains.ordered (stored : w.backend.chain chainID = some state) :
    state.Ordered := by
  obtain ⟨store, found, sound⟩ := sound
  rw [found] at stored
  obtain ⟨chain, present, rfl⟩ := Option.map_eq_some_iff.mp stored
  exact (sound chainID chain present).ordered

/-- A recorded success is that of a node before the next index. -/
theorem World.SoundChains.committed_iff (stored : w.backend.chain chainID = some state) :
    w.backend.committed chainID nodeID = true ↔ ∃ index : Nat, (index : Int) < state.nextIndex ∧
        (state.nodes[index]?).map (·.nodeID) = some nodeID := by
  obtain ⟨store, found, sound⟩ := sound
  rw [found] at stored
  obtain ⟨chain, present, rfl⟩ := Option.map_eq_some_iff.mp stored
  rw [found]
  simp only [Backend.committed, present, Option.any_some]
  exact (sound chainID chain present).completedNode_iff nodeID

/-- A chain that was read is the stored one. -/
theorem World.SoundChains.exec_getChain
    (executed : World.exec label w (.memory (.getChain chainID)) choice =
      some (some (.ok state), after)) :
    w.backend.chain chainID = some state ∧ after.backend.chain chainID = some state := by
  obtain ⟨store, found, _, answered, rfl⟩ := sound.exec_memory executed
  simp only [MemoryCall.run, MemoryStore.getChain] at answered
  split at answered
  · cases answered
  · rename_i chain present
    cases answered
    simp [found, Backend.chain, MemoryCall.run, present]

/-- A created chain is stored as the record says. -/
theorem World.SoundChains.exec_createChain
    (executed : World.exec label w (.memory (.createChain record)) choice =
      some (some none, after)) :
    after.backend.chain record.chainID = some (MemoryStore.createdChain record w.clock).state := by
  obtain ⟨store, found, _, answered, rfl⟩ := sound.exec_memory executed
  have valid : validateChainRecord record = none := by
    simp only [MemoryCall.run, MemoryStore.createChain] at answered
    split at answered
    · cases answered
    · assumption
  simp [Backend.chain, MemoryCall.run, MemoryStore.createChain_chains store w.clock valid]

/-- An answered success acts on a stored chain in one of the known ways. -/
theorem World.SoundChains.exec_advance
    (executed : World.exec label w (.memory (.advanceChainOutcome chainID nodeID claim)) choice =
        some (some (.ok advance), after)) :
    ∃ store chain next, w.backend = .memory store ∧ store.chains chainID = some chain ∧
      chain.Sound ∧ after.backend = .memory next ∧
      MemoryStore.AdvanceOutcome store chain chainID nodeID claim w.clock (.ok advance, next) := by
  obtain ⟨store, found, sound, answered, rfl⟩ := sound.exec_memory executed
  simp only [MemoryCall.run] at answered
  cases present : store.chains chainID with
  | none =>
    simp only [MemoryStore.advanceChainOutcome, present] at answered
    cases answered
  | some chain =>
    have chainSound := sound chainID chain present
    have outcome := MemoryStore.advanceChainOutcome_cases present
      chainSound.ordered nodeID claim w.clock
    refine ⟨store, chain, _, found, present, chainSound, rfl, ?_⟩
    rw [answered]
    exact outcome

/-- An answered failure acts on a stored chain in one of the known ways. -/
theorem World.SoundChains.exec_fail
    (executed : World.exec label w (.memory (.failChainOutcome chainID nodeID cause claim)) choice =
        some (some (.ok failed), after)) :
    ∃ store chain next, w.backend = .memory store ∧ store.chains chainID = some chain ∧
      chain.Sound ∧ after.backend = .memory next ∧
      MemoryStore.FailureOutcome store chain chainID nodeID cause claim w.clock
        (.ok failed, next) := by
  obtain ⟨store, found, sound, answered, rfl⟩ := sound.exec_memory executed
  simp only [MemoryCall.run] at answered
  cases present : store.chains chainID with
  | none =>
    simp only [MemoryStore.failChainOutcome, present] at answered
    cases answered
  | some chain =>
    have chainSound := sound chainID chain present
    have outcome := MemoryStore.failChainOutcome_cases present
      chainSound.ordered nodeID cause claim w.clock
    refine ⟨store, chain, _, found, present, chainSound, rfl, ?_⟩
    rw [answered]
    exact outcome

end Calls

/-! ## The layer -/

/-- The phases of programs over the memory store. -/
def Phase.OverMemory : Phase -> Prop
  | .sqlNode _ => False
  | .sqlUnsure _ => False
  | .sqlCompleted _ => False
  | _ => True

theorem EngineMoves.overMemory (moved : EngineMoves phase operation answer next)
    (memory : phase.OverMemory) : next.OverMemory := by
  cases moved with
  | quiet => exact memory
  | direct => trivial
  | chainDispatch move => cases move <;> trivial
  | node move => cases move <;> trivial
  | sqlNode move => cases move <;> exact memory.elim
  | batchDispatch move => cases move <;> trivial
  | member move => cases move <;> trivial

/-- Stored chains are sound, and programs run over the memory store. -/
def memoryChains : Assertions World Phase where
  shared := fun _ w => w.SoundChains
  thread := fun _ phase _ => phase.OverMemory

theorem World.SoundChains.prune (sound : w.SoundChains) :
    ({ w with backend := w.backend.prune cutoff } : World).SoundChains := by
  obtain ⟨store, found, sound⟩ := sound
  refine ⟨store.prune cutoff, ?_, sound.apply (.prune cutoff)⟩
  simp [found, Backend.prune]

theorem memoryChains_kept :
    ledger.KeptOver memoryChains (Broker.machine .memory callbacksDisabled)
      .always (engineProtocol .memory) where
  operation := by
    intro bound label phase next before world operation answer choice _ shared
      known moved executed _
    exact ⟨shared.2.exec executed, EngineMoves.overMemory moved known.2, fun _ _ _ _ _ same => same⟩
  blocked := by
    intro bound label before world operation choice _ _ executed
    exact absurd executed World.exec_answered
  finished := by
    intro bound label phase before world result _ shared _ _ settled
    refine ⟨?_, fun _ _ _ _ _ same => same⟩
    rcases World.finish_cases settled with
      ⟨_, _, _, _, rfl⟩ | ⟨_, _, _, rfl⟩ | ⟨_, _, _, rfl⟩ <;> exact shared.2
  idle := by
    intro bound before world move shared moved _
    refine ⟨?_, fun _ _ _ _ _ same => same⟩
    rcases external_idle moved with ⟨_, _, _, _, rfl⟩ | ⟨cutoff, _, rfl⟩ | ⟨_, _, rfl⟩
    · exact shared.2
    · exact shared.2.prune
    · exact shared.2
  started := by
    intro bound before world move program phase shared moved _ entered
    refine ⟨?_, ?_, fun _ _ _ _ _ same => same⟩
    · rcases external_started moved with
        ⟨_, rfl⟩ | ⟨_, rfl⟩ | ⟨_, _, _, _, _, rfl⟩ <;> exact shared.2
    · rcases EngineEntry.memory_cases entered with
        rfl | rfl | rfl | rfl | ⟨_, rfl⟩ | ⟨_, rfl⟩ <;> trivial

/-- What is known of every run over the memory store. -/
def memoryLedger : Assertions World Phase := ledger.and memoryChains

theorem memoryLedger_initial : memoryLedger.shared 0 (World.initial .memory) :=
  ⟨registered_initial, MemoryStore.empty, rfl, MemoryStore.chainsSound_empty⟩

theorem memoryLedger_kept :
    memoryLedger.Kept (Broker.machine .memory callbacksDisabled) .always (engineProtocol .memory) :=
  ledger_kept.over memoryChains_kept

end JobQueue.Workflow
