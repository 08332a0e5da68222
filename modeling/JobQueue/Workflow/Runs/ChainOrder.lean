import JobQueue.Workflow.Runs.MemoryChains

/-!
# Chain order under any delivery schedule

A message of a chain names a node that the stored chain has reached, however
often and in whatever order messages are delivered: the first message names the
first node, and every later one the node that the store offered after a
recorded success. The stored chain only moves forward, so the same is true of
every handler that a delivery starts.
-/

namespace JobQueue.Workflow

open Interleaving

/-! ## Reached nodes -/

/-- The chain has recorded the success of every node before this one. -/
def ChainState.Reached (state : ChainState) (nodeID : String) : Prop :=
  ∃ index : Nat, chainNodePosition state.nodes nodeID = some index ∧ (index : Int) ≤ state.nextIndex

/-- The stored chain, if there is one, has reached the node. -/
def World.Reached (w : World) (chainID nodeID : String) : Prop :=
  ∀ state, w.backend.chain chainID = some state -> state.Reached nodeID

variable {state : ChainState} {nodeID : String}

theorem ChainState.Reached.mono (reached : state.Reached nodeID) (precedes : state.Precedes later) :
    later.Reached nodeID := by
  obtain ⟨index, position, below⟩ := reached
  refine ⟨index, ?_, Int.le_trans below precedes.nextIndex⟩
  rw [precedes.nodes]
  exact position

theorem World.Reached.mono (reached : before.Reached chainID nodeID)
    (continues : World.Continues chainID before after) :
    after.Reached chainID nodeID := by
  intro later stored
  obtain ⟨state, found, precedes⟩ := continues later stored
  exact (reached state found).mono precedes

/-- Where the node at the next index is found. -/
theorem ChainState.Ordered.position_next (ordered : state.Ordered)
    (offered : state.nodes[state.nextIndex.toNat]? = some node) :
    ∃ index : Nat, chainNodePosition state.nodes node.nodeID = some index ∧
      (index : Int) = state.nextIndex := by
  refine ⟨state.nextIndex.toNat, chainNodePosition_of_getElem? ordered.nodup ?_, ?_⟩
  · rw [List.getElem?_map, offered]
    rfl
  · have nonneg := ordered.nextIndex_nonneg
    omega

/-- The node at the next index is reached. -/
theorem ChainState.Ordered.reached_next (ordered : state.Ordered)
    (offered : state.nodes[state.nextIndex.toNat]? = some node) :
    state.Reached node.nodeID := by
  obtain ⟨index, position, atNext⟩ := ordered.position_next offered
  exact ⟨index, position, Int.le_of_eq atNext⟩

/-- Where the first node is found. -/
theorem ChainState.Ordered.position_first
    (ordered : state.Ordered) (first : state.nodes[0]? = some node) :
    chainNodePosition state.nodes node.nodeID = some 0 := by
  refine chainNodePosition_of_getElem? ordered.nodup ?_
  rw [List.getElem?_map, first]
  rfl

/-- A handler was started for a node that the chain had reached, and the
successes of all nodes before it were recorded. -/
structure Start.InOrder (start : Start) (stored : ChainState) : Prop where
  seen : start.chain = some stored
  position : ∃ index : Nat, chainNodePosition stored.nodes start.env.nodeID = some index ∧
    (index : Int) ≤ stored.nextIndex ∧ ∀ earlier node, earlier < index ->
    stored.nodes[earlier]? = some node -> node.nodeID ∈ start.committed

/-! ## The assertions -/

section Chain

variable (chainID : String)

/-- What is known of the messages and of the handlers of a chain. -/
structure KeepsOrder (w : World) : Prop where
  produced : ∀ message ∈ w.produced, message.kind = .chainNode -> message.env.chainID = chainID ->
      w.Reached chainID message.env.nodeID ∧
      ∀ state, w.backend.chain chainID = some state -> state.dispatchID = message.env.dispatchID
  starts : ∀ start ∈ w.starts, start.kind = .chainNode -> start.env.chainID = chainID -> ∀ earlier,
    start.chain = some earlier -> start.InOrder earlier ∧ ∀ later,
    w.backend.chain chainID = some later -> earlier.Precedes later

/-- The chain that a program has stored or delivers. -/
def Role.chain? : Role -> Option String
  | .unsent id => some id
  | .rejected id => some id
  | .dispatched id => some id
  | .delivering d .chainNode => some d.env.chainID
  | _ => none

/-- The chain that a program in a phase is about. -/
abbrev Phase.subject (phase : Phase) : Option String := phase.role.chain?

/-- A delivery is about a chain only if it delivers one of its nodes. -/
theorem of_deliveryPhase_chain? {chainID : String}
    (about : (deliveryPhase kind d).role.chain? = some chainID) :
    d.message.kind = .chainNode ∧ d.env.chainID = chainID := by
  unfold deliveryPhase at about
  split at about
  · cases about
  · exact ⟨‹_›, Option.some.inj about⟩
  · exact ⟨‹_›, Option.some.inj about⟩
  · cases about
  · cases about

/-- What is known of a program that is about to enqueue a node. -/
def Phase.Orders (w : World) : Phase -> Prop
  | .chainStored record =>
    record.chainID = chainID -> ∀ state, w.backend.chain chainID = some state ->
        state.nodes = record.nodes ∧ state.dispatchID = record.dispatchID
  | .chainPosting record first _ =>
    record.chainID = chainID -> w.Reached chainID first.nodeID ∧
      ∀ state, w.backend.chain chainID = some state -> state.dispatchID = record.dispatchID
  | .node d (some seen) =>
    d.env.chainID = chainID -> seen.Ordered ∧ ∀ state, w.backend.chain chainID = some state ->
        seen.Precedes state
  | .nodeAdvanced d advance =>
    d.env.chainID = chainID -> ∀ next, advance.next = some next -> w.Reached chainID next.nodeID
  | .nodePosting d next _ => d.env.chainID = chainID -> w.Reached chainID next.nodeID
  | _ => True

/-- The order of one chain as assertions about the machine. -/
def chainOrder : Assertions World Phase where
  shared := fun _ w => KeepsOrder chainID w
  thread := fun _ phase w => phase.Orders chainID w

variable {chainID} {w after : World}

variable {phase : Phase}

/-- Programs about other chains know nothing of this one. -/
theorem Phase.Orders.of_subject (other : phase.subject ≠ some chainID) :
    phase.Orders chainID w := by
  cases phase with
  | chainStored | chainPosting | nodeAdvanced | nodePosting =>
    exact fun same => absurd (congrArg some same) other
  | node d seen =>
    cases seen with
    | none => trivial
    | some seen => exact fun same => absurd (congrArg some same) other
  | _ => trivial

theorem Phase.Orders.mono (orders : phase.Orders chainID w)
    (continues : World.Continues chainID w after) :
    phase.Orders chainID after := by
  cases phase with
  | chainStored record =>
    intro same later stored
    obtain ⟨state, found, precedes⟩ := continues later stored
    rw [precedes.nodes, precedes.dispatchID]
    exact orders same state found
  | chainPosting record first jobID =>
    refine fun same => ⟨(orders same).1.mono continues, ?_⟩
    intro later stored
    obtain ⟨state, found, precedes⟩ := continues later stored
    rw [precedes.dispatchID]
    exact (orders same).2 state found
  | node d seen =>
    cases seen with
    | none => trivial
    | some seen =>
      refine fun same => ⟨(orders same).1, ?_⟩
      intro later stored
      obtain ⟨state, found, precedes⟩ := continues later stored
      exact ((orders same).2 state found).trans precedes
  | nodeAdvanced d advance =>
    exact fun same next offered => (orders same next offered).mono continues
  | nodePosting d next jobID => exact fun same => (orders same).mono continues
  | _ => trivial

theorem KeepsOrder.aside (keeps : KeepsOrder chainID w) (aside : w.Aside after) :
    KeepsOrder chainID after := by
  have continues : World.Continues chainID w after := .aside aside
  refine ⟨?_, ?_⟩
  · rw [aside.produced]
    intro message listed node about
    obtain ⟨reached, dispatch⟩ := keeps.produced message listed node about
    refine ⟨reached.mono continues, ?_⟩
    intro later stored
    obtain ⟨state, found, precedes⟩ := continues later stored
    rw [precedes.dispatchID]
    exact dispatch state found
  · rw [aside.starts]
    intro start listed node about earlier seen
    obtain ⟨order, before⟩ := keeps.starts start listed node about earlier seen
    refine ⟨order, ?_⟩
    intro later stored
    obtain ⟨state, found, precedes⟩ := continues later stored
    exact (before state found).trans precedes

/-! ## Operations -/

variable {phase next : Phase} {operation : Op}

/-- Only the program that generated its identifier is about an unused
chain. -/
theorem Role.Holds.chain?_ne_of_unused {role : Role} (holds : role.Holds other w)
    (registered : Registered bound w) (unused : w.Unused chainID)
    (owned : w.Owns label chainID) (different : other ≠ label) : role.chain? ≠ some chainID := by
  intro about
  unfold Role.chain? at about
  split at about
  · cases about
    exact different (holds.2.1.unique owned)
  · cases about
    exact different (holds.2.1.unique owned)
  · cases about
    exact different (holds.2.1.unique owned)
  · cases about
    refine unused.produced _ (registered.handled holds.1).2.1 ?_
    simp [Message.workflow, holds.2]
  · cases about

/-- Programs enqueue nodes that the chain has reached. -/
theorem Phase.Orders.posts (orders : phase.Orders chainID w) (keeps : KeepsOrder chainID w)
    (registered : Registered bound w) (holds : phase.role.Holds label w) (memory : phase.OverMemory)
    (moved : EngineMoves phase (.busDispatch .chainNode env) sent next)
    (about : env.chainID = chainID) :
    w.Reached chainID env.nodeID ∧ ∀ state, w.backend.chain chainID = some state ->
        state.dispatchID = env.dispatchID := by
  cases moved with
  | quiet _ _ _ silent => cases silent
  | chainDispatch move =>
    cases move with
    | post => exact orders about
    | postRejected => exact orders about
  | node move =>
    cases move with
    | post =>
      exact ⟨orders about, (keeps.produced _ (registered.handled holds.1).2.1 holds.2 about).2⟩
  | sqlNode move =>
    cases move with
    | post => exact memory.elim
  | batchDispatch move => cases move
  | member move => cases move

/-- A handler started for a reached node is started in order. -/
theorem World.SoundChains.starting_inOrder (sound : w.SoundChains)
    (stored : w.backend.chain env.chainID = some state) (reached : state.Reached env.nodeID) :
    (w.starting label env).InOrder state := by
  obtain ⟨index, position, below⟩ := reached
  refine ⟨stored, index, position, below, ?_⟩
  intro earlier node before found
  have listed : node.nodeID ∈ state.nodes.map (·.nodeID) :=
    List.mem_map_of_mem (List.mem_of_getElem? found)
  have recorded : w.backend.committed env.chainID node.nodeID = true := by
    refine (sound.committed_iff stored).mpr ⟨earlier, by omega, ?_⟩
    rw [found]
    rfl
  simp only [World.starting, stored, Option.map_some, Option.getD_some]
  exact List.mem_filter.mpr ⟨listed, recorded⟩

/-- The node offered after a success is reached. -/
theorem World.SoundChains.offered_reached (sound : w.SoundChains)
    (executed : World.exec label w (.memory (.advanceChainOutcome chainID nodeID claim)) choice =
        some (some (.ok advance), after))
    (offered : advance.next = some node) :
    after.Reached chainID node.nodeID := by
  intro state kept
  have ordered := (sound.exec executed).ordered kept
  obtain ⟨store, chain, following, backend, stored, chainSound, becomes,
    outcome⟩ := sound.exec_advance executed
  rw [becomes] at kept
  refine ordered.reached_next ?_
  cases outcome with
  | foreign => cases offered
  | replayed index found below settled =>
    obtain rfl : chain.state = state := by
      simpa [Backend.chain, stored] using kept
    dsimp only at offered
    split at offered
    · cases offered
    · exact offered
  | claimed current matching =>
    obtain rfl : chain.state.advance w.clock = state := by
      simpa [Backend.chain, MemoryStore.claimSuccess, MemoryStore.setChain] using kept
    dsimp only at offered
    split at offered
    · cases offered
    · exact offered

variable {answer : operation.Answer} (sound : w.SoundChains)
  (moved : EngineMoves phase operation answer next)
  (executed : World.exec label w operation choice = some (some answer, after))
include sound moved executed

/-- What a program knows after an operation. -/
theorem Phase.Orders.moves (orders : phase.Orders chainID w) (memory : phase.OverMemory) :
    next.Orders chainID after := by
  have keep : ∀ {phase : Phase}, phase.Orders chainID w ->
      operation.createsChain = none -> phase.Orders chainID after := by
    intro phase orders uncreated
    exact orders.mono (.exec sound executed (by simp [uncreated]))
  cases moved with
  | quiet _ _ _ silent => exact keep orders (Op.quiet_creates silent).1
  | direct => trivial
  | chainDispatch move =>
    cases move with
    | create record =>
      rintro rfl state stored
      rw [sound.exec_createChain executed] at stored
      cases stored
      exact ⟨rfl, rfl⟩
    | insert record => exact absurd executed sound.exec_sql
    | mintJob record first id head =>
      refine keep ?_ rfl
      refine fun same => ⟨?_, fun state stored => (orders same state stored).2⟩
      intro state stored
      have ordered := sound.ordered stored
      exact ⟨0, ordered.position_first ((orders same state stored).1 ▸ head),
        ordered.nextIndex_nonneg⟩
    | _ => trivial
  | node move =>
    cases move with
    | saw d seen state =>
      rintro rfl
      obtain ⟨stored, kept⟩ := sound.exec_getChain executed
      refine ⟨sound.ordered stored, fun later found => ?_⟩
      obtain rfl : state = later := Option.some.inj (kept.symm.trans found)
      exact .refl state
    | recoverPost d state node id recovering offered =>
      refine keep ?_ rfl
      intro same later stored
      obtain ⟨ordered, precedes⟩ := orders same
      exact (ordered.reached_next offered).mono (precedes later stored)
    | advance d error advance =>
      rintro rfl node offered
      exact sound.offered_reached executed offered
    | confirm d advance state =>
      exact @keep (.nodeAdvanced d { advance with state := state }) orders rfl
    | mintJob d advance node id offered =>
      exact @keep (.nodePosting d node id) (fun same => orders same node offered) rfl
    | recoverReport => exact keep orders rfl
    | complete => exact keep orders rfl
    | _ => trivial
  | sqlNode move => cases move <;> exact memory.elim
  | batchDispatch move => cases move <;> trivial
  | member move => cases move <;> trivial

/-- An operation continues the chain, or creates it while nothing mentions
it. -/
theorem EngineMoves.continues_or_unused (chainID : String) (holds : phase.role.Holds label w) :
    World.Continues chainID w after ∨ operation.aspect = .store ∧ w.Owns label chainID ∧
        w.Unused chainID := by
  by_cases creates : operation.createsChain = some chainID
  · have minted : (Role.minted chainID).Holds label w :=
      EngineMoves.creates moved (.inl creates) ▸ holds
    refine .inr ⟨?_, minted.2.1, minted.2.2⟩
    cases operation <;> first | rfl | cases creates
  · exact .inl (.exec sound executed creates)

/-- What is known of the chain after an operation. -/
theorem KeepsOrder.moves (keeps : KeepsOrder chainID w) (registered : Registered bound w)
    (holds : phase.role.Holds label w) (memory : phase.OverMemory)
    (orders : phase.Orders chainID w) :
    KeepsOrder chainID after := by
  rcases EngineMoves.continues_or_unused sound moved executed chainID holds with
    continues | ⟨stores, _, unused⟩
  · refine ⟨?_, ?_⟩
    · intro message listed node about
      have known : w.Reached chainID message.env.nodeID ∧ ∀ state,
          w.backend.chain chainID = some state -> state.dispatchID = message.env.dispatchID := by
        rcases World.exec_mem_produced executed listed with earlier | ⟨kind, env, rfl, rfl⟩
        · exact keeps.produced message earlier node about
        · cases node
          exact orders.posts keeps registered holds memory moved about
      refine ⟨known.1.mono continues, ?_⟩
      intro later stored
      obtain ⟨state, found, precedes⟩ := continues later stored
      rw [precedes.dispatchID]
      exact known.2 state found
    · intro start listed node about earlier seen
      have known : start.InOrder earlier ∧
          ∀ later, w.backend.chain chainID = some later -> earlier.Precedes later := by
        rcases World.exec_mem_starts executed listed with before | ⟨env, rfl, rfl⟩
        · exact keeps.starts start before node about earlier seen
        · obtain ⟨d, handles, rfl⟩ := EngineMoves.handles moved holds (by rw [node]; rfl)
          have kind : d.message.kind = .chainNode := by
            simpa [World.starting, show KeyedList.find label w.handling = some d
              from handles] using node
          have same : d.env.chainID = chainID := by
            rw [← d.executed_chainID]
            exact about
          have reached := (keeps.produced d.message (registered.handled handles).2.1 kind same).1
          have stored : w.backend.chain chainID = some earlier := by
            rw [← about]
            exact seen
          refine ⟨sound.starting_inOrder seen ?_, ?_⟩
          · rw [d.executed_nodeID]
            exact reached earlier stored
          · intro later found
            obtain rfl : earlier = later := Option.some.inj (stored.symm.trans found)
            exact .refl earlier
      refine ⟨known.1, fun later stored => ?_⟩
      obtain ⟨state, found, precedes⟩ := continues later stored
      exact (known.2 state found).trans precedes
  · have touched := World.exec_touched executed
    have unproduced : ∀ message ∈ w.produced, message.kind = .chainNode ->
        message.env.chainID ≠ chainID := by
      rintro message listed node rfl
      refine unused.produced message listed ?_
      simp [Message.workflow, node]
    refine ⟨?_, ?_⟩
    · rw [touched.produced (by rw [stores]; decide)]
      intro message listed node about
      exact absurd about (unproduced message listed node)
    · rw [touched.starts (by rw [stores]; decide)]
      intro start listed node about
      obtain ⟨d, produced, kind, same⟩ := registered.starts start listed (by rw [node]; rfl)
      refine absurd ?_ (unproduced d.message produced (kind.trans node))
      rw [← d.executed_chainID, ← same]
      exact about

end Chain

/-! ## The order is kept -/

/-- Every step keeps the order of a chain. -/
theorem chainOrder_kept :
    memoryLedger.KeptOver (chainOrder chainID) (Broker.machine .memory callbacksDisabled) .always
      (engineProtocol .memory) where
  operation := by
    intro bound label phase next before world operation answer choice _
      ⟨⟨registered, sound⟩, keeps⟩ ⟨⟨holds, memory⟩, orders⟩ moved executed _
    refine ⟨keeps.moves sound moved executed registered holds memory orders,
      orders.moves sound moved executed memory, ?_⟩
    intro other otherPhase _ different known otherOrders
    rcases EngineMoves.continues_or_unused sound moved executed
      chainID holds with continues | ⟨_, owned, unused⟩
    · exact Phase.Orders.mono otherOrders continues
    · exact .of_subject (Role.Holds.chain?_ne_of_unused known.1 registered unused owned different)
  blocked := by
    intro bound label before world operation choice _ _ executed
    exact absurd executed World.exec_answered
  finished := by
    intro bound label phase before world result _ ⟨_, keeps⟩ _ _ settled
    have aside := World.Aside.finish settled
    exact ⟨keeps.aside aside, fun _ _ _ _ _ orders => Phase.Orders.mono orders (.aside aside)⟩
  idle := by
    intro bound before world move ⟨_, keeps⟩ moved _
    have aside := World.Aside.external moved
    exact ⟨keeps.aside aside, fun _ _ _ _ _ orders => Phase.Orders.mono orders (.aside aside)⟩
  started := by
    intro bound before world move program phase ⟨_, keeps⟩ moved _ entered
    have aside := World.Aside.external moved
    refine ⟨keeps.aside aside, ?_, fun _ _ _ _ _ orders => Phase.Orders.mono orders (.aside aside)⟩
    rcases EngineEntry.memory_cases entered with
      rfl | rfl | rfl | rfl | ⟨_, rfl⟩ | ⟨_, rfl⟩ <;> trivial

/-- What is known of one chain in every run over the memory store. -/
def chainLedger (chainID : String) : Assertions World Phase :=
  memoryLedger.and (chainOrder chainID)

theorem chainLedger_kept (callbacksDisabled : Bool) (chainID : String) :
    (chainLedger chainID).Kept (Broker.machine .memory callbacksDisabled)
      .always (engineProtocol .memory) :=
  memoryLedger_kept.over chainOrder_kept

theorem chainLedger_initial : (chainLedger chainID).shared 0 (World.initial .memory) := by
  refine ⟨memoryLedger_initial, ?_, ?_⟩
  · intro message listed
    cases listed
  · intro start listed
    cases listed

/-! ## Chains that are not pruned -/

section Retained

variable (chainID : String)

/-- Environments that do not prune the chain. -/
def retains : Broker.StepCondition where
  operation := fun _ _ _ _ _ => True
  external := fun before _ after =>
    after.backend.chain chainID = before.backend.chain chainID

instance : (retains chainID).Testable where
  operation := fun _ _ _ _ _ => .isTrue trivial
  external := fun before _ after => inferInstanceAs
    (Decidable (after.backend.chain chainID = before.backend.chain chainID))

/-- The stored chain is still there and has only moved forward. -/
def World.Onward (before after : World) : Prop :=
  ∀ state, before.backend.chain chainID = some state ->
    ∃ later, after.backend.chain chainID = some later ∧ state.Precedes later

/-- The chain is stored from its first message on. -/
structure StaysStored (w : World) : Prop where
  produced : ∀ message ∈ w.produced, message.kind = .chainNode ->
    message.env.chainID = chainID -> w.backend.chain chainID ≠ none
  starts : ∀ start ∈ w.starts, start.kind = .chainNode ->
    start.env.chainID = chainID -> start.chain ≠ none

/-- The presence of one chain as assertions about the machine. -/
def chainStays : Assertions World Phase where
  shared := fun _ w => StaysStored chainID w
  thread := fun _ phase w =>
    phase.subject = some chainID -> w.backend.chain chainID ≠ none

variable {chainID} {first second before after w : World}

theorem World.Onward.of_eq (same : after.backend.chain chainID = before.backend.chain chainID) :
    World.Onward chainID before after := by
  intro state stored
  exact ⟨state, same.trans stored, .refl state⟩

theorem World.Onward.trans (earlier : World.Onward chainID first second)
    (later : World.Onward chainID second third) :
    World.Onward chainID first third := by
  intro state stored
  obtain ⟨middle, kept, precedes⟩ := earlier state stored
  obtain ⟨last, found, further⟩ := later middle kept
  exact ⟨last, found, precedes.trans further⟩

theorem World.Onward.ne_none (onward : World.Onward chainID before after)
    (stored : before.backend.chain chainID ≠ none) :
    after.backend.chain chainID ≠ none := by
  obtain ⟨state, found⟩ := Option.ne_none_iff_exists'.mp stored
  obtain ⟨later, kept, _⟩ := onward state found
  simp [kept]

theorem StaysStored.aside (stays : StaysStored chainID before)
    (onward : World.Onward chainID before after)
    (aside : before.Aside after) : StaysStored chainID after := by
  refine ⟨?_, aside.starts ▸ stays.starts⟩
  rw [aside.produced]
  exact fun message listed node about =>
    onward.ne_none (stays.produced message listed node about)

/-- Every step that does not prune the chain moves it forward. -/
theorem onward_relates (callbacksDisabled : Bool) (chainID : String) :
    memoryLedger.Relates (Broker.machine .memory callbacksDisabled)
      (retains chainID) (engineProtocol .memory) (World.Onward chainID) where
  operation := by
    intro bound label phase next before world operation answer choice _
      ⟨_, sound⟩ ⟨holds, _⟩ moved executed _ state stored
    refine World.exec_precedes sound executed stored ?_
    intro creates
    have minted : (Role.minted chainID).Holds label before :=
      EngineMoves.creates moved (.inl creates) ▸ holds
    rw [minted.2.2.chain] at stored
    cases stored
  blocked := fun executed => absurd executed World.exec_answered
  finished := by
    intro label before world result settled
    refine .of_eq ?_
    rcases World.finish_cases settled with
      ⟨_, _, _, _, rfl⟩ | ⟨_, _, _, rfl⟩ | ⟨_, _, _, rfl⟩ <;> rfl
  external := fun _ retained => .of_eq retained

variable {phase : Phase}

/-- A delivered chain is stored. -/
theorem StaysStored.delivered (stays : StaysStored chainID w) (registered : Registered bound w)
    (handles : w.Handles label d) (node : d.message.kind = .chainNode)
    (about : d.env.chainID = chainID) :
    w.backend.chain chainID ≠ none :=
  stays.produced d.message (registered.handled handles).2.1 node about

section Known

variable (stays : StaysStored chainID w) (registered : Registered bound w)
  (holds : phase.role.Holds label w) (memory : phase.OverMemory)
  (known : phase.subject = some chainID -> w.backend.chain chainID ≠ none)
include stays registered holds memory known

/-- A program that turns to a chain finds it stored. -/
theorem StaysStored.subject (sound : w.SoundChains) (onward : World.Onward chainID w after)
    (moved : EngineMoves phase operation answer next)
    (executed : World.exec label w operation choice = some (some answer, after))
    (about : next.subject = some chainID) :
    after.backend.chain chainID ≠ none := by
  cases moved with
  | quiet => exact onward.ne_none (known about)
  | direct => cases about
  | chainDispatch move =>
    cases move with
    | create record =>
      cases about
      rw [sound.exec_createChain executed]
      exact Option.some_ne_none _
    | insert record => exact absurd executed sound.exec_sql
    | mint | createRefused | insertRefused => cases about
    | _ => exact onward.ne_none (known about)
  | node move =>
    refine onward.ne_none ?_
    cases move <;> cases about <;> exact stays.delivered registered holds.1 holds.2 rfl
  | sqlNode move => cases move <;> exact memory.elim
  | batchDispatch move => cases move <;> cases about
  | member move => cases move <;> cases about

/-- Programs enqueue nodes of stored chains. -/
theorem StaysStored.posts (moved : EngineMoves phase (.busDispatch .chainNode env) sent next)
    (about : env.chainID = chainID) : w.backend.chain chainID ≠ none := by
  cases moved with
  | quiet _ _ _ silent => cases silent
  | chainDispatch move =>
    cases move with
    | post => exact known (congrArg some about)
    | postRejected => exact known (congrArg some about)
  | node move =>
    cases move with
    | post => exact stays.delivered registered holds.1 holds.2 about
  | sqlNode move =>
    cases move with
    | post => exact memory.elim
  | batchDispatch move => cases move
  | member move => cases move

end Known

/-- Every step that does not prune the chain keeps it stored. -/
theorem chainStays_kept :
    (chainLedger chainID).KeptOver (chainStays chainID)
      (Broker.machine .memory callbacksDisabled) (retains chainID)
      (engineProtocol .memory) where
  operation := by
    rintro bound label phase next before world operation answer choice bounded
      ⟨⟨⟨registered, sound⟩, _⟩, stays⟩ ⟨⟨⟨holds, memory⟩, _⟩, known⟩ moved executed _
    have onward := (onward_relates callbacksDisabled chainID).operation bounded
      ⟨registered, sound⟩ ⟨holds, memory⟩ moved executed trivial
    refine ⟨⟨?_, ?_⟩, stays.subject registered holds memory known sound
      onward moved executed, fun _ _ _ _ _ stored about =>
        onward.ne_none (stored about)⟩
    · intro message listed node about
      refine onward.ne_none ?_
      rcases World.exec_mem_produced executed listed with earlier | ⟨kind, env, rfl, rfl⟩
      · exact stays.produced message earlier node about
      · cases node
        exact stays.posts registered holds memory known moved about
    · intro start listed node about
      rcases World.exec_mem_starts executed listed with earlier | ⟨env, rfl, rfl⟩
      · exact stays.starts start earlier node about
      · obtain ⟨d, handles, rfl⟩ := EngineMoves.handles moved holds (by rw [node]; rfl)
        have kind : d.message.kind = .chainNode := by
          simpa [World.starting, show KeyedList.find label before.handling =
            some d from handles] using node
        have same : d.env.chainID = chainID := by
          rw [← d.executed_chainID]
          exact about
        have stored := stays.delivered registered handles kind same
        simpa [World.starting, same] using stored
  blocked := by
    intro bound label before world operation choice _ _ executed
    exact absurd executed World.exec_answered
  finished := by
    rintro bound label phase before world result _ ⟨_, stays⟩ _ _ settled
    have onward := (onward_relates callbacksDisabled chainID).finished settled
    exact ⟨stays.aside onward (.finish settled),
      fun _ _ _ _ _ stored about => onward.ne_none (stored about)⟩
  idle := by
    rintro bound before world move ⟨_, stays⟩ moved retained
    have onward : World.Onward chainID before world := .of_eq retained
    exact ⟨stays.aside onward (.external moved),
      fun _ _ _ _ _ stored about => onward.ne_none (stored about)⟩
  started := by
    rintro bound before world move program phase ⟨⟨⟨registered, _⟩, _⟩, stays⟩
      moved retained entered
    have onward : World.Onward chainID before world := .of_eq retained
    refine ⟨stays.aside onward (.external moved), ?_,
      fun _ _ _ _ _ stored about => onward.ne_none (stored about)⟩
    rcases external_started moved with
      ⟨⟨_, _, rfl⟩, _⟩ | ⟨⟨_, _, rfl⟩, _⟩ | ⟨index, e, rfl, found, _, rfl⟩
    · cases entered
      rintro ⟨⟩
    · cases entered
      rintro ⟨⟩
    · obtain ⟨d, handles, rfl⟩ := entered
      obtain ⟨_, rfl⟩ : bound = bound ∧ d = e :=
        (handOver_handles_iff.mp handles).resolve_right fun other => other.1 rfl
      intro about
      obtain ⟨node, same⟩ := of_deliveryPhase_chain? about
      exact stays.produced d.message (registered.queued _ (List.mem_of_getElem? found)) node same

/-- Over the memory store, with any messages delivered any number of times in
any order, the handler of a chain node starts only after the successes of all
nodes before it were recorded; and once the chain is seen failed, no handler of
a node after the failed one is ever started, before or afterwards. -/
theorem chain_handlers_start_in_order (callbacksDisabled : Bool) (chainID : String)
    {config : Broker.Configuration}
    (reached : (Broker.machine .memory callbacksDisabled).Reaches
      (retains chainID) (Broker.start .memory) config) :
    (∀ start ∈ config.world.starts, start.kind = .chainNode ->
      start.env.chainID = chainID -> ∃ stored, start.InOrder stored) ∧
    ∀ failed, config.world.backend.chain chainID = some failed -> failed.failed = true -> ∀ later,
      (Broker.machine .memory callbacksDisabled).Reaches (retains chainID) config later ->
      ∀ start ∈ later.world.starts, start.kind = .chainNode -> start.env.chainID = chainID ->
      ∃ index : Nat, chainNodePosition failed.nodes start.env.nodeID = some index ∧
      (index : Int) ≤ failed.nextIndex := by
  have governs := Broker.governs .memory callbacksDisabled
  have kept := ((chainLedger_kept callbacksDisabled chainID).restrict).over chainStays_kept
  have initial : ((chainLedger chainID).and (chainStays chainID)).Hold
      (engineProtocol .memory) (Broker.start .memory) :=
    .initial ⟨chainLedger_initial, fun _ listed => absurd listed List.not_mem_nil,
      fun _ listed => absurd listed List.not_mem_nil⟩
  have hold := initial.reaches governs kept reached
  have started : ∀ {other : Broker.Configuration},
      ((chainLedger chainID).and (chainStays chainID)).Hold (engineProtocol .memory) other ->
      ∀ start ∈ other.world.starts, start.kind = .chainNode -> start.env.chainID = chainID ->
      ∃ earlier, start.InOrder earlier ∧ ∀ later, other.world.backend.chain chainID = some later ->
      earlier.Precedes later := by
    intro other here start listed node about
    obtain ⟨earlier, seen⟩ := Option.ne_none_iff_exists'.mp
      (here.shared.2.starts start listed node about)
    exact ⟨earlier, here.shared.1.2.starts start listed node about earlier seen⟩
  refine ⟨?_, ?_⟩
  · intro start listed node about
    obtain ⟨earlier, order, _⟩ := started hold start listed node about
    exact ⟨earlier, order⟩
  · intro failed stored ended later further start listed node about
    obtain ⟨earlier, order, before⟩ :=
      started (hold.reaches governs kept further) start listed node about
    obtain ⟨last, found, frozen⟩ := hold.fst.fst.relates governs memoryLedger_kept.restrict
      (onward_relates callbacksDisabled chainID) (fun _ => .of_eq rfl)
      World.Onward.trans further failed stored
    obtain ⟨index, position, below, _⟩ := order.position
    refine ⟨index, ?_, ?_⟩
    · rw [← frozen.nodes, (before last found).nodes]
      exact position
    · have terminal : failed.terminal = true := by simp [ChainState.terminal, ended]
      rw [← (frozen.terminal terminal).2]
      exact Int.le_trans below (before last found).nextIndex

end Retained

/-- A chain of two jobs without options. -/
def twoNodeChain : ChainBuilder where
  jobs :=
    [{ jobType := "first", payload := .ok [] }, { jobType := "second", payload := .ok [] }]

/-- The dispatch of the chain of two jobs, whose first message is accepted. -/
def twoNodeDispatch : List (Action Choice Move) :=
  .external (.dispatchChain twoNodeChain {}) :: Broker.perform 0 [.suffix "1", .suffix "2",
      .suffix "3", .suffix "4", .plain, .plain, .suffix "5", .plain, .plain, .suffix "6",
      .enqueue .accepted, .result none, .plain]

/-- Deliveries in which the first node succeeds and the second one fails. -/
def secondNodeFails : List (Action Choice Move) :=
  .external (.deliver 0 {}) :: Broker.perform 1 [.plain, .suffix "7", .plain, .registered true,
      .result none, .plain, .plain, .plain, .plain, .plain, .suffix "8", .enqueue .accepted,
      .plain] ++
  .external (.deliver 0 {}) :: Broker.perform 2 [.plain, .suffix "9", .plain, .registered true,
      .result (some (.permanent (.text "failed"))), .plain, .plain]

/-- The chain failed at its second node, whose handler was started. -/
def secondNodeFailed (config : Broker.Configuration) : Bool :=
  (config.world.backend.chain "chn_1").any
    (fun state => state.failed && decide (state.nextIndex = 1)) &&
  config.world.starts.any fun start =>
    decide (start.kind = .chainNode ∧ start.env.chainID = "chn_1" ∧ start.env.nodeID = "chn_1_n_4")

theorem chain_handlers_start_in_order_two_nodes :
    ∃ config failed,
      (Broker.machine .memory false).Reaches (retains "chn_1") (Broker.start .memory) config ∧
      config.world.backend.chain "chn_1" = some failed ∧ failed.failed = true ∧
      failed.nextIndex = 1 ∧ ∃ start ∈ config.world.starts, start.env.nodeID = "chn_1_n_4" ∧
      (∃ stored, start.InOrder stored) ∧ ∃ index : Nat,
      chainNodePosition failed.nodes "chn_1_n_4" = some index ∧
      (index : Int) ≤ failed.nextIndex := by
  have passed : ((Broker.machine .memory false).run (retains "chn_1")
      (Broker.start .memory) (twoNodeDispatch ++ secondNodeFails)).any secondNodeFailed = true := by
    decide +kernel
  obtain ⟨config, reached, seen⟩ := Machine.Reaches.of_any passed
  obtain ⟨stored, started⟩ := Bool.and_eq_true_iff.mp seen
  obtain ⟨failed, found, ended⟩ := (Option.any_eq_true _ _).mp stored
  obtain ⟨start, listed, about⟩ := List.any_eq_true.mp started
  obtain ⟨isFailed, atSecond⟩ := Bool.and_eq_true_iff.mp ended
  obtain ⟨node, chain, second⟩ := of_decide_eq_true about
  obtain ⟨inOrder, noneAfter⟩ := chain_handlers_start_in_order false "chn_1" reached
  refine ⟨config, failed, reached, found, isFailed, of_decide_eq_true atSecond,
    start, listed, second, inOrder start listed node chain, ?_⟩
  rw [← second]
  exact noneAfter failed found isFailed config .refl start listed node chain

end JobQueue.Workflow
