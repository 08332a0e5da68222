import JobQueue.Workflow.Runs.ChainOrder

/-!
# Continuations of chains

An unfinished chain is carried on by a message for the node it waits for, or,
until such a message was produced, by a message for the node before it: the
delivery of that message is kept until it has enqueued the successor. One step
breaks this: a redelivered node whose success is already recorded may report a
failure, which the store refuses and the engine acknowledges, although its
successor was never enqueued. Without that step no continuation is lost.
-/

namespace JobQueue.Workflow

open Interleaving

/-! ## Messages that carry a chain -/

/-- The message is for a node of a chain. -/
def Message.Of (message : Message) (chainID : String) : Prop :=
  message.kind = .chainNode ∧ message.env.chainID = chainID

instance (message : Message) (chainID : String) : Decidable (message.Of chainID) :=
  inferInstanceAs (Decidable (_ ∧ _))

theorem Message.Of.workflow {message : Message} (about : message.Of chainID) :
    message.workflow = some chainID := by
  simp [Message.workflow, about.1, about.2]

/-- The message is for the node at a position of a chain. -/
def Message.At (message : Message) (chainID : String) (nodes : List ChainNode)
    (index : Nat) : Prop :=
  message.Of chainID ∧ chainNodePosition nodes message.env.nodeID = some index

instance (message : Message) (chainID : String) (nodes : List ChainNode)
    (index : Nat) : Decidable (message.At chainID nodes index) :=
  inferInstanceAs (Decidable (_ ∧ _))

namespace World

variable (w : World)

/-- The message waits in the broker or is being handled. -/
def Present (message : Message) : Prop :=
  message ∈ w.broker ∨ ∃ label d, w.Handles label d ∧ d.message = message

/-- A message for the position was produced. -/
def ProducedAt (chainID : String) (nodes : List ChainNode) (index : Nat) : Prop :=
  ∃ message ∈ w.produced, message.At chainID nodes index

instance (chainID : String) (nodes : List ChainNode) (index : Nat) :
    Decidable (w.ProducedAt chainID nodes index) :=
  inferInstanceAs (Decidable (∃ message ∈ w.produced, _))

/-- No failure of the node may be reported: its success is the last one that
the unfinished chain has recorded, and no message for the node after it was
produced. -/
def Strands (chainID nodeID : String) (state : ChainState) : Prop :=
  state.terminal = false ∧ ∃ index ∈ chainNodePosition state.nodes nodeID,
      (index : Int) + 1 = state.nextIndex ∧ ¬w.ProducedAt chainID state.nodes (index + 1)

/-- The stored chain, if there is one, is finished. -/
def Ended (chainID : String) : Prop :=
  ∀ state, w.backend.chain chainID = some state -> state.terminal = true

/-- An unfinished chain does not need a message for the node any more. -/
def Dispensable (chainID nodeID : String) : Prop :=
  ∀ state, w.backend.chain chainID = some state -> state.terminal = false ->
    ∃ index, chainNodePosition state.nodes nodeID = some index ∧
      ((index : Int) + 1 < state.nextIndex ∨ ((index : Int) + 1 = state.nextIndex ∧
          w.ProducedAt chainID state.nodes (index + 1)))

/-- A message of an unfinished chain was produced. -/
def Sent (chainID : String) : Prop :=
  ∀ state, w.backend.chain chainID = some state -> state.terminal = false ->
    ∃ message ∈ w.produced, message.Of chainID

/-- The second node comes after the first one. -/
def Succeeds (chainID nodeID successor : String) : Prop :=
  ∀ state, w.backend.chain chainID = some state -> ∃ index later,
    chainNodePosition state.nodes nodeID = some index ∧
    chainNodePosition state.nodes successor = some later ∧ index < later

/-- The node is the first of its chain. -/
def First (chainID nodeID : String) : Prop :=
  ∀ state, w.backend.chain chainID = some state -> chainNodePosition state.nodes nodeID = some 0

end World

/-- What carries an unfinished chain. -/
inductive Carried (chainID : String) (w : World) (state : ChainState) : Prop
  | current (message : Message) (index : Nat) (next : (index : Int) = state.nextIndex)
      (placed : message.At chainID state.nodes index) (present : w.Present message)
  | passed (message : Message) (index : Nat) (before : (index : Int) + 1 = state.nextIndex)
      (placed : message.At chainID state.nodes index) (present : w.Present message)
      (unproduced : ¬w.ProducedAt chainID state.nodes (index + 1))
  | unsent (unproduced : ∀ message ∈ w.produced, ¬message.Of chainID)
      (first : state.nextIndex = 0) (unreturned : chainID ∉ w.returned)

/-! ## The assertions -/

section Chain

variable (chainID : String)

/-- Deliveries recover nothing. -/
def unrecovered : Broker.StepCondition where
  operation := fun _ _ _ _ _ => True
  external := fun _ move _ =>
    match move with
    | .deliver _ context => recoveredDeliveryProvenance context = none
    | _ => True

/-- Deliveries recover nothing, and none of them reports the failure of a node
that alone carries the chain. -/
def carriesOn : Broker.StepCondition where
  operation := fun label before operation _ _ =>
    match operation with
    | .memory (.failChainOutcome target nodeID _ _) =>
      target = chainID -> (KeyedList.find label before.handling).isSome ->
        ∀ state ∈ before.backend.chain chainID, ¬before.Strands chainID nodeID state
    | _ => True
  external := unrecovered.external

instance testableUnrecovered : unrecovered.Testable where
  operation := fun _ _ _ _ _ => .isTrue trivial
  external := fun _ move _ =>
    match move with
    | .dispatchChain _ _ => .isTrue trivial
    | .dispatchBatch _ _ => .isTrue trivial
    | .deliver _ context => inferInstanceAs (Decidable (recoveredDeliveryProvenance context = none))
    | .duplicate _ => .isTrue trivial
    | .prune _ => .isTrue trivial
    | .tick _ => .isTrue trivial

instance (w : World) (chainID nodeID : String) (state : ChainState) :
    Decidable (w.Strands chainID nodeID state) :=
  inferInstanceAs (Decidable (_ ∧ ∃ index ∈ _, _ ∧ _))

instance : (carriesOn chainID).Testable where
  operation := fun label before operation _ _ => by
    cases operation with
    | memory call =>
      cases call <;> first
        | exact .isTrue trivial
        | exact inferInstanceAs (Decidable (_ -> _ -> ∀ state ∈ _, _))
    | _ => exact .isTrue trivial
  external := testableUnrecovered.external

/-- What is known of an unfinished chain. -/
structure KeepsCarrying (w : World) : Prop where
  ordinary : ∀ {label d}, w.Handles label d -> d.recovered = false
  carried : ∀ state, w.backend.chain chainID = some state ->
    state.terminal = false -> Carried chainID w state

/-- What is known of a program that stored the chain or delivers a node. -/
def Phase.Carries (w : World) : Phase -> Prop
  | .chainPosting record first _ => record.chainID = chainID -> w.First chainID first.nodeID
  | .chainRejected record first _ => record.chainID = chainID -> w.First chainID first.nodeID
  | .chainRefused record => record.chainID = chainID -> w.Sent chainID
  | .chainDispatched record => record.chainID = chainID -> w.Sent chainID
  | .nodeLost d => d.env.chainID = chainID -> w.Dispensable chainID d.env.nodeID
  | .nodeFailed d => d.env.chainID = chainID -> w.Ended chainID
  | .nodeReported d => d.env.chainID = chainID -> w.Ended chainID
  | .nodeAdvanced d advance =>
    d.env.chainID = chainID ->
      (advance.done = true ∨ (advance.claimedNow = false ∧ advance.successOwned = false) ->
          w.Ended chainID) ∧
      ∀ next, advance.next = some next -> w.Succeeds chainID d.env.nodeID next.nodeID
  | .nodePosting d next _ => d.env.chainID = chainID -> w.Succeeds chainID d.env.nodeID next.nodeID
  | .nodePosted d answer =>
    d.env.chainID = chainID -> accepted answer = true -> w.Dispensable chainID d.env.nodeID
  | _ => True

/-- The continuation of one chain as assertions about the machine. -/
def chainCarried : Assertions World Phase where
  shared := fun _ w => KeepsCarrying chainID w
  thread := fun _ phase w => phase.Carries chainID w

variable {chainID} {w after : World}

/-- The chain continues and no message is forgotten. -/
structure World.Grows (chainID : String) (before after : World) : Prop where
  continues : World.Continues chainID before after
  produced : ∀ message ∈ before.produced, message ∈ after.produced

variable {index : Nat} {state later : ChainState} {nodeID : String}
  {failed : ChainFailureResult} {d : Delivery}

/-- An unfinished chain was unfinished before. -/
theorem ChainState.Precedes.running
    (precedes : state.Precedes later) (running : later.terminal = false) :
    state.terminal = false := by
  cases ended : state.terminal with
  | false => rfl
  | true =>
    rw [(precedes.terminal ended).1] at running
    cases running

section Mono

variable (grows : World.Grows chainID w after)

include grows

theorem World.Ended.mono (ended : w.Ended chainID) : after.Ended chainID := by
  intro later stored
  obtain ⟨state, found, precedes⟩ := grows.continues later stored
  exact (precedes.terminal (ended state found)).1

theorem World.Sent.mono (sent : w.Sent chainID) : after.Sent chainID := by
  intro later stored running
  obtain ⟨state, found, precedes⟩ := grows.continues later stored
  obtain ⟨message, listed, about⟩ := sent state found (precedes.running running)
  exact ⟨message, grows.produced message listed, about⟩

variable {nodeID : String}

theorem World.Dispensable.mono (dispensable : w.Dispensable chainID nodeID) :
    after.Dispensable chainID nodeID := by
  intro later stored running
  obtain ⟨state, found, precedes⟩ := grows.continues later stored
  obtain ⟨index, position, passed⟩ := dispensable state found (precedes.running running)
  have forward := precedes.nextIndex
  rw [precedes.nodes]
  refine ⟨index, position, ?_⟩
  rcases passed with before | ⟨before, produced⟩
  · exact .inl (by omega)
  · by_cases same : later.nextIndex = state.nextIndex
    · exact .inr ⟨by omega, produced.imp fun message => And.imp_left (grows.produced message)⟩
    · exact .inl (by omega)

theorem World.Succeeds.mono (succeeds : w.Succeeds chainID nodeID successor) :
    after.Succeeds chainID nodeID successor := by
  intro later stored
  obtain ⟨state, found, precedes⟩ := grows.continues later stored
  rw [precedes.nodes]
  exact succeeds state found

theorem World.First.mono (first : w.First chainID nodeID) : after.First chainID nodeID := by
  intro later stored
  obtain ⟨state, found, precedes⟩ := grows.continues later stored
  rw [precedes.nodes]
  exact first state found

theorem Phase.Carries.mono {phase : Phase} (carries : phase.Carries chainID w) :
    phase.Carries chainID after := by
  cases phase with
  | chainPosting | chainRejected => exact fun same => (carries same).mono grows
  | chainRefused | chainDispatched => exact fun same => (carries same).mono grows
  | nodeLost => exact fun same => (carries same).mono grows
  | nodeFailed | nodeReported => exact fun same => (carries same).mono grows
  | nodeAdvanced d advance =>
    exact fun same =>
      ⟨fun finished => ((carries same).1 finished).mono grows,
        fun next offered => ((carries same).2 next offered).mono grows⟩
  | nodePosting => exact fun same => (carries same).mono grows
  | nodePosted => exact fun same taken => (carries same taken).mono grows
  | _ => trivial

end Mono

theorem Phase.Carries.of_subject {phase : Phase} (other : phase.subject ≠ some chainID) :
    phase.Carries chainID w := by
  cases phase <;> first
    | trivial
    | exact fun same => absurd (congrArg some same) other

/-! ## Answers of the store -/

variable {label : Nat} {phase next : Phase} {operation : Op} {answer : operation.Answer}

theorem dispatchMismatch_self : dispatchMismatch dispatchID dispatchID = false := by
  simp [dispatchMismatch]

theorem dispatchMismatch_empty : dispatchMismatch dispatchID "" = false := by
  simp [dispatchMismatch]

/-- The failure of a reached node is answered. -/
theorem World.SoundChains.fail_answered (sound : w.SoundChains)
    (stored : w.backend.chain chainID = some state) (reached : state.Reached nodeID) :
    World.exec label w (.memory (.failChainOutcome chainID nodeID cause {})) choice ≠
        some (some (.error refusal), after) := by
  intro executed
  have ordered := sound.ordered stored
  obtain ⟨store, found, _, answered, _⟩ := sound.exec_memory executed
  rw [found] at stored
  obtain ⟨chain, present, rfl⟩ := Option.map_eq_some_iff.mp stored
  obtain ⟨index, position, below⟩ := reached
  simp only [MemoryCall.run, MemoryStore.failChainOutcome, present,
    ordered.chainNodeFailureDisposition_eq position below, dispatchMismatch_empty] at answered
  split at answered <;> cases answered

section Failed

variable (sound : w.SoundChains)
  (executed : World.exec label w
    (.memory (.failChainOutcome chainID nodeID cause claim)) choice =
      some (some (.ok failed), after))
include sound executed

/-- A claimed failure finishes the chain. -/
theorem World.SoundChains.failed_ended (owned : failed.owned = true ∨ failed.claimedNow = true) :
    after.Ended chainID := by
  intro later kept
  obtain ⟨store, chain, following, backend, stored, chainSound, becomes,
    outcome⟩ := sound.exec_fail executed
  rw [becomes] at kept
  cases outcome with
  | foreign => simp at owned
  | completed => simp at owned
  | replayed index found below settled =>
    obtain rfl : chain.state = later := by
      simpa [Backend.chain, stored] using kept
    have isFailed : chain.state.failed = true := by
      simp only [Bool.and_eq_true, Bool.false_eq_true, or_false] at owned
      exact owned.1
    simp [ChainState.terminal, isFailed]
  | claimed current matching =>
    obtain rfl : chain.state.fail cause w.clock = later := by
      simpa [Backend.chain, MemoryStore.claimFailure, MemoryStore.setChain] using kept
    simp [ChainState.terminal, ChainState.fail]

/-- A failure that the store does not own was refused because the chain is
finished or has passed the node. -/
theorem World.SoundChains.fail_lost (lost : failed.owned = false ∨ failed.claimedNow = false)
    (stored : w.backend.chain chainID = some state)
    (matching : dispatchMismatch state.dispatchID claim.dispatchID = false)
    (running : state.terminal = false) :
    after.backend = w.backend ∧ ∃ index, chainNodePosition state.nodes nodeID = some index ∧
        (index : Int) < state.nextIndex := by
  obtain ⟨store, chain, following, backend, present, chainSound, becomes,
    outcome⟩ := sound.exec_fail executed
  obtain rfl : chain.state = state := by
    simpa [backend, Backend.chain, present] using stored
  cases outcome with
  | foreign mismatch => simp [mismatch] at matching
  | completed done => simp [ChainState.terminal, done] at running
  | replayed index found below settled =>
    refine ⟨becomes.trans backend.symm, index, found, ?_⟩
    rcases settled with ended | before
    · simp [ended] at running
    · exact before
  | claimed => simp at lost

end Failed

/-- What an answered success says about the chain. -/
theorem World.SoundChains.advance_answered (sound : w.SoundChains)
    (executed : World.exec label w (.memory (.advanceChainOutcome chainID nodeID claim)) choice =
        some (some (.ok advance), after))
    (matching : ∀ state, w.backend.chain chainID = some state ->
      dispatchMismatch state.dispatchID claim.dispatchID = false) :
    (advance.done = true ∨ (advance.claimedNow = false ∧ advance.successOwned = false) ->
        after.Ended chainID) ∧
    ∀ node, advance.next = some node -> after.Succeeds chainID nodeID node.nodeID := by
  have laterSound := sound.exec executed
  obtain ⟨store, chain, following, backend, present, chainSound, becomes,
    outcome⟩ := sound.exec_advance executed
  have stored : w.backend.chain chainID = some chain.state := by
    simp [backend, Backend.chain, present]
  cases outcome with
  | foreign mismatch => simp [matching _ stored] at mismatch
  | replayed index found below settled =>
    have same : ∀ state, after.backend.chain chainID = some state -> chain.state = state := by
      intro state kept
      simpa [becomes, Backend.chain, present] using kept
    refine ⟨?_, ?_⟩
    · intro finished state kept
      rw [← same state kept]
      rcases finished with done | ⟨_, unowned⟩
      · exact done
      · rcases settled with ended | before
        · exact ended
        · simp [before] at unowned
    · intro node offered state kept
      rw [← same state kept]
      dsimp only at offered
      split at offered
      · cases offered
      · rename_i running
        obtain ⟨later, position, atNext⟩ := chainSound.ordered.position_next offered
        refine ⟨index, later, found, position, ?_⟩
        rcases settled with ended | before
        · exact absurd ended running
        · omega
  | claimed current matched =>
    have same : ∀ state, after.backend.chain chainID = some state ->
        chain.state.advance w.clock = state := by
      intro state kept
      simpa [becomes, Backend.chain, MemoryStore.claimSuccess, MemoryStore.setChain] using kept
    refine ⟨?_, ?_⟩
    · intro finished state kept
      rw [← same state kept]
      have done : (chain.state.advance w.clock).completed = true := by simpa using finished
      simp [ChainState.terminal, done]
    · intro node offered state kept
      rw [← same state kept]
      obtain ⟨_, index, found, atNext⟩ := current
      dsimp only at offered
      split at offered
      · cases offered
      · obtain ⟨later, position, next⟩ :=
          (laterSound.ordered ((same state kept) ▸ kept)).position_next offered
        refine ⟨index, later, found, position, ?_⟩
        have moved : (chain.state.advance w.clock).nextIndex = chain.state.nextIndex + 1 := rfl
        omega

/-! ## Answers of the transport -/

/-- What the caller takes for accepted was accepted. -/
theorem accepts_of_accepted {outcome : Enqueue} (possible : outcome.possible = true)
    (taken : accepted outcome.answer = true) : outcome.accepts = true := by
  cases outcome with
  | accepted => rfl
  | executed error => rfl
  | rejected error =>
    simp only [Enqueue.possible] at possible
    simp only [accepted, Enqueue.answer, acceptedExecutionError,
      Option.isNone_some, Option.bind_some, Bool.false_or] at taken
    rw [Option.isNone_iff_eq_none.mp possible] at taken
    cases taken
  | ambiguous error => rfl

theorem World.produced_post (taken : outcome.accepts = true) :
    (w.post label message outcome).produced = message :: w.produced := by
  rw [World.post_eq]
  simp [World.enqueue, taken, World.produce]

/-! ## Operations -/

theorem World.Grows.exec (sound : w.SoundChains)
    (executed : World.exec label w operation choice = some (some answer, after))
    (uncreated : operation.createsChain ≠ some chainID) :
    World.Grows chainID w after where
  continues := .exec sound executed uncreated
  produced := fun _ listed => World.exec_produced_subset executed listed

theorem World.Grows.aside (aside : w.Aside after) : World.Grows chainID w after where
  continues := .aside aside
  produced := fun _ listed => aside.produced ▸ listed

/-- A present message was produced. -/
theorem World.Present.produced
    (present : w.Present message) (registered : Registered bound w) : message ∈ w.produced := by
  rcases present with queued | ⟨handler, d, handles, rfl⟩
  · exact registered.queued message queued
  · exact (registered.handled handles).2.1

/-- A chain that has moved on was sent. -/
theorem Carried.sent (carried : Carried chainID w state) (registered : Registered bound w)
    (moved : 0 < state.nextIndex) :
    ∃ message ∈ w.produced, message.Of chainID := by
  cases carried with
  | current message index next placed present =>
    exact ⟨message, present.produced registered, placed.1⟩
  | passed message index before placed present =>
    exact ⟨message, present.produced registered, placed.1⟩
  | unsent _ first => omega

/-- Once the successor was produced, a node is dispensable. -/
theorem World.Dispensable.of_successor
    {successor : String} (succeeds : w.Succeeds chainID nodeID successor)
    (reached : w.Reached chainID successor) (produced : message ∈ w.produced)
    (about : message.Of chainID) (named : message.env.nodeID = successor) :
    w.Dispensable chainID nodeID := by
  intro state stored running
  obtain ⟨index, later, position, following, before⟩ := succeeds state stored
  obtain ⟨same, found, below⟩ := reached state stored
  obtain rfl : later = same := Option.some.inj (following.symm.trans found)
  refine ⟨index, position, ?_⟩
  by_cases passed : (index : Int) + 1 < state.nextIndex
  · exact .inl passed
  · have next : later = index + 1 := by omega
    subst next
    refine .inr ⟨by omega, message, produced, about, ?_⟩
    rw [named]
    exact following

section Moving

variable (carries : phase.Carries chainID w) (registered : Registered bound w)
  (sound : w.SoundChains) (keeps : KeepsCarrying chainID w) (orders : phase.Orders chainID w)
  (executed : World.exec label w operation choice = some (some answer, after))
include carries registered sound keeps orders executed

/-- What a dispatch knows after an operation. -/
theorem Phase.Carries.dispatch_moves (moved : ChainDispatchMoves phase operation answer next) :
    next.Carries chainID after := by
  have grows : operation.createsChain = none -> World.Grows chainID w after := fun uncreated =>
    .exec sound executed (by simp [uncreated])
  cases moved with
  | mint | create | createRefused | insert | insertRefused => trivial
  | mintJob record first id head =>
    intro same
    have here : w.First chainID first.nodeID := by
      intro state stored
      exact (sound.ordered stored).position_first ((orders same state stored).1 ▸ head)
    exact here.mono (grows rfl)
  | post record first id sent taken =>
    intro same
    obtain ⟨outcome, possible, rfl, rfl⟩ := World.exec_busDispatch executed
    intro state _ _
    rw [World.produced_post (accepts_of_accepted possible taken)]
    exact ⟨_, List.mem_cons_self, rfl, same⟩
  | postRejected record first id error refused => exact fun same => (carries same).mono (grows rfl)
  | fail record first error failed owned =>
    rintro rfl
    have ended := sound.failed_ended executed (.inl owned)
    intro state stored running
    rw [ended state stored] at running
    cases running
  | failLost record first error failed lost =>
    rintro rfl
    refine World.Sent.mono (grows rfl) ?_
    intro state stored running
    obtain ⟨_, index, _, passed⟩ := sound.fail_lost executed (.inl lost)
      stored dispatchMismatch_empty running
    exact (keeps.carried state stored running).sent registered (by omega)
  | failRefused record first error refusal =>
    rintro rfl
    refine World.Sent.mono (grows rfl) ?_
    intro state stored running
    have reached : state.Reached first.nodeID :=
      ⟨0, carries rfl state stored, (sound.ordered stored).nextIndex_nonneg⟩
    exact absurd executed (sound.fail_answered stored reached)
  | failSql | failSqlOther | sawFailed => exact absurd executed sound.exec_sql
  | report record event deferred kind about => exact fun same => (carries same).mono (grows rfl)

/-- What a delivery knows after an operation. -/
theorem Phase.Carries.node_moves (order : KeepsOrder chainID w) (holds : phase.role.Holds label w)
    (moved : NodeMoves phase operation answer next)
    (allowed : (carriesOn chainID).operation label w operation answer after) :
    next.Carries chainID after := by
  have grows : operation.createsChain = none -> World.Grows chainID w after := fun uncreated =>
    .exec sound executed (by simp [uncreated])
  have matching : ∀ {d : Delivery}, w.Handles label d -> d.message.kind = .chainNode ->
      d.env.chainID = chainID -> ∀ state, w.backend.chain chainID = some state ->
      dispatchMismatch state.dispatchID d.claim.dispatchID = false := by
    intro d handles node about state stored
    have same := (order.produced d.message (registered.handled handles).2.1
      node about).2 state stored
    rw [same]
    exact dispatchMismatch_self
  cases moved with
  | fail d error failed decided claimed =>
    rintro rfl
    exact sound.failed_ended executed (.inr claimed)
  | failLost d error failed decided lost ordinary =>
    rintro rfl
    refine World.Dispensable.mono (grows rfl) ?_
    intro state stored running
    obtain ⟨_, index, position, passed⟩ := sound.fail_lost executed lost
      stored (matching holds.1 holds.2 rfl state stored) running
    refine ⟨index, position, ?_⟩
    by_cases before : (index : Int) + 1 < state.nextIndex
    · exact .inl before
    · refine .inr ⟨by omega, ?_⟩
      by_contra unproduced
      have handled : (KeyedList.find label w.handling).isSome = true := by
        rw [show KeyedList.find label w.handling = some d from holds.1]
        rfl
      exact allowed rfl handled state stored ⟨running, index, position, by omega, unproduced⟩
  | report d event deferred kind about => exact fun same => (carries same).mono (grows rfl)
  | advance d error advance decided =>
    rintro rfl
    exact sound.advance_answered executed (matching holds.1 holds.2 rfl)
  | confirm d advance state =>
    exact @Phase.Carries.mono _ _ _ (grows rfl)
      (.nodeAdvanced d { advance with state := state }) carries
  | complete => exact carries.mono (grows rfl)
  | mintJob d advance node id offered =>
    exact fun same => ((carries same).2 node offered).mono (grows rfl)
  | recoverPost d state node id recovering offered =>
    rw [keeps.ordinary holds.1] at recovering
    cases recovering
  | post d node id sent =>
    intro same taken
    obtain ⟨outcome, possible, rfl, rfl⟩ := World.exec_busDispatch executed
    have forward := grows rfl
    refine @World.Dispensable.of_successor chainID _ _ (.mk .chainNode
      (chainNodeEnvelope d.env.dispatchID d.env.chainID id node)) _
      ((carries same).mono forward)
      (World.Reached.mono (orders same) forward.continues) ?_ ⟨rfl, same⟩ rfl
    rw [World.produced_post (accepts_of_accepted possible taken)]
    exact List.mem_cons_self
  | _ => trivial

end Moving

/-- A chain is created with nothing done. -/
theorem World.SoundChains.created_first (sound : w.SoundChains)
    (executed : World.exec label w operation choice = some (some answer, after))
    (creates : operation.createsChain = some chainID) (absent : w.backend.chain chainID = none)
    (stored : after.backend.chain chainID = some state) :
    state.nextIndex = 0 := by
  rcases sound.exec_cases executed with ⟨call, rfl⟩ | same
  · cases call with
    | createChain record =>
      cases creates
      obtain ⟨store, found, _, _, rfl⟩ := sound.exec_memory executed
      cases valid : validateChainRecord record with
      | some error =>
        simp only [World.commit_backend, MemoryCall.run, MemoryStore.createChain, valid] at stored
        rw [found, stored] at absent
        cases absent
      | none =>
        simp only [World.commit_backend, MemoryCall.run, Backend.chain,
          MemoryStore.createChain_chains store w.clock valid,
          Function.update_self, Option.map_some] at stored
        cases stored
        rfl
    | _ => cases creates
  · rw [same, absent] at stored
    cases stored

/-- A program that enqueues a node delivers another one, or enqueues the first
one. -/
theorem Phase.Carries.posts (carries : phase.Carries chainID w) (registered : Registered bound w)
    (holds : phase.role.Holds label w) (memory : phase.OverMemory)
    (moved : EngineMoves phase (.busDispatch .chainNode env) sent next)
    (about : env.chainID = chainID) :
    (∃ message ∈ w.produced, message.Of chainID) ∨ w.First chainID env.nodeID := by
  cases moved with
  | quiet _ _ _ silent => cases silent
  | chainDispatch move =>
    cases move with
    | post => exact .inr (carries about)
    | postRejected => exact .inr (carries about)
  | node move =>
    cases move with
    | post => exact .inl ⟨_, (registered.handled holds.1).2.1, holds.2, about⟩
  | sqlNode move =>
    cases move with
    | post => exact memory.elim
  | batchDispatch move => cases move
  | member move => cases move

/-- Only the delivery of a node advances its chain past it. -/
theorem EngineMoves.advances
    (moved : EngineMoves phase (.memory (.advanceChainOutcome chainID nodeID claim)) reply next)
    (holds : phase.role.Holds label w) :
    ∃ d, w.Handles label d ∧ d.message.Of chainID ∧ d.env.nodeID = nodeID := by
  cases moved with
  | quiet _ _ _ silent => cases silent
  | chainDispatch move => cases move
  | node move =>
    cases move with
    | advanceRefused => exact ⟨_, holds.1, ⟨holds.2, rfl⟩, rfl⟩
    | advance => exact ⟨_, holds.1, ⟨holds.2, rfl⟩, rfl⟩
    | advanceRecovered => exact ⟨_, holds.1, ⟨holds.2, rfl⟩, rfl⟩
  | sqlNode move => cases move
  | batchDispatch move => cases move
  | member move => cases move

/-- What carries a chain still does when no message appears or disappears. -/
theorem Carried.of_same (carried : Carried chainID w state) (nodes : later.nodes = state.nodes)
    (nextIndex : later.nextIndex = state.nextIndex)
    (present : ∀ message, w.Present message -> after.Present message)
    (produced : after.produced = w.produced)
    (returned : chainID ∉ w.returned -> chainID ∉ after.returned) :
    Carried chainID after later := by
  cases carried with
  | current message index next placed here =>
    refine .current message index (next.trans nextIndex.symm) ?_ (present message here)
    rw [nodes]
    exact placed
  | passed message index before placed here unproduced =>
    refine .passed message index (before.trans nextIndex.symm) ?_ (present message here) ?_
    · rw [nodes]
      exact placed
    · rw [World.ProducedAt, nodes, produced]
      exact unproduced
  | unsent unproduced first unreturned =>
    exact .unsent (produced ▸ unproduced) (nextIndex.trans first) (returned unreturned)

/-- What carries a chain after a message was accepted. -/
theorem Carried.of_produced (carried : Carried chainID w state)
    (present : ∀ other, w.Present other -> after.Present other)
    (arrived : after.Present message)
    (produced : after.produced = message :: w.produced)
    (returned : after.returned = w.returned)
    (first : message.Of chainID -> (∃ other ∈ w.produced, other.Of chainID) ∨
        chainNodePosition state.nodes message.env.nodeID = some 0) :
    Carried chainID after state := by
  cases carried with
  | current other index next placed here =>
    exact .current other index next placed (present other here)
  | passed other index before placed here unproduced =>
    by_cases successor : message.At chainID state.nodes (index + 1)
    · exact .current message (index + 1) (by omega) successor arrived
    · refine .passed other index before placed (present other here) ?_
      rintro ⟨candidate, listed, position⟩
      rw [produced] at listed
      rcases List.mem_cons.mp listed with rfl | listed
      · exact successor position
      · exact unproduced ⟨candidate, listed, position⟩
  | unsent unproduced start unreturned =>
    by_cases about : message.Of chainID
    · rcases first about with ⟨other, listed, same⟩ | position
      · exact absurd same (unproduced other listed)
      · exact .current message 0 (by omega) ⟨about, position⟩ arrived
    · refine .unsent ?_ start (returned ▸ unreturned)
      rw [produced]
      intro other listed
      rcases List.mem_cons.mp listed with rfl | listed
      · exact about
      · exact unproduced other listed

/-- An operation keeps every message present. -/
theorem World.Present.exec (present : w.Present message)
    (executed : World.exec label w operation choice = some (some answer, after)) :
    after.Present message := by
  rcases present with queued | ⟨handler, d, handles, same⟩
  · left
    rcases World.exec_enqueues executed with ⟨same, _⟩ | ⟨_, _, _, more, _⟩
    · exact same ▸ queued
    · exact more ▸ List.mem_cons_of_mem _ queued
  · exact .inr ⟨handler, d, (handles_exec_iff executed).mpr handles, same⟩

/-- A message that is handed over is present all the time. -/
theorem World.Present.handOver (present : w.Present message) (registered : Registered bound w)
    (found : w.broker[index]? = some d.message) :
    (w.handOver bound index d).Present message := by
  rcases present with queued | ⟨handler, e, handles, same⟩
  · by_cases taken : message = d.message
    · exact .inr ⟨bound, d, handOver_handles_iff.mpr (.inl ⟨rfl, rfl⟩), taken.symm⟩
    · left
      obtain ⟨position, held⟩ := List.mem_iff_getElem?.mp queued
      refine List.mem_eraseIdx_iff_getElem?.mpr ⟨position, ?_, held⟩
      rintro rfl
      exact taken (Option.some.inj (held.symm.trans found))
  · refine .inr ⟨handler, e, handOver_handles_iff.mpr (.inr ⟨?_, handles⟩), same⟩
    have below := (registered.handled handles).1
    omega

/-- An operation that does not advance the chain keeps it carried. -/
theorem Carried.exec (carried : Carried chainID w state) (carries : phase.Carries chainID w)
    (registered : Registered bound w) (holds : phase.role.Holds label w) (memory : phase.OverMemory)
    (moved : EngineMoves phase operation answer next)
    (executed : World.exec label w operation choice = some (some answer, after))
    (stored : w.backend.chain chainID = some state)
    (kept : after.backend.chain chainID = some later) (precedes : state.Precedes later)
    (stays : later.nextIndex = state.nextIndex) :
    Carried chainID after later := by
  have touched := World.exec_touched executed
  have present : ∀ message, w.Present message -> after.Present message :=
    fun _ here => here.exec executed
  rcases World.exec_enqueues executed with ⟨_, same⟩ | ⟨kind, env, rfl, queued, more⟩
  · refine carried.of_same precedes.nodes stays present same ?_
    rw [touched.returned]
    exact fun unreturned => unreturned
  · rw [touched.backend (by simp [Op.aspect]), stored] at kept
    cases kept
    refine carried.of_produced present (.inl (queued ▸ List.mem_cons_self)) more touched.returned ?_
    rintro ⟨node, about⟩
    cases node
    exact (carries.posts registered holds memory moved about).imp_right
      fun first => first state stored

/-- What is known of the chain after an operation. -/
theorem KeepsCarrying.moves (keeps : KeepsCarrying chainID w) (order : KeepsOrder chainID w)
    (registered : Registered bound w) (sound : w.SoundChains) (carries : phase.Carries chainID w)
    (holds : phase.role.Holds label w) (memory : phase.OverMemory)
    (moved : EngineMoves phase operation answer next)
    (executed : World.exec label w operation choice = some (some answer, after)) :
    KeepsCarrying chainID after := by
  have touched := World.exec_touched executed
  refine ⟨fun handles => keeps.ordinary ((handles_exec_iff executed).mp handles), ?_⟩
  intro later kept running
  by_cases creates : operation.createsChain = some chainID
  · have minted : (Role.minted chainID).Holds label w :=
      EngineMoves.creates moved (.inl creates) ▸ holds
    have stores : operation.aspect = .store := by cases operation <;> first | rfl | cases creates
    have unused := minted.2.2
    refine .unsent ?_ (sound.created_first executed creates unused.chain kept) ?_
    · rw [touched.produced (by rw [stores]; decide)]
      intro message listed about
      exact unused.produced message listed about.workflow
    · rw [touched.returned]
      exact unused.returned
  · obtain ⟨state, stored, precedes⟩ := World.Continues.exec sound executed creates later kept
    have carried := keeps.carried state stored (precedes.running running)
    rcases World.exec_nextIndex sound executed stored kept creates with
      stays | ⟨nodeID, claim, rfl, ⟨_, index, position, current⟩, advanced⟩
    · exact carried.exec carries registered holds memory moved executed stored kept precedes stays
    · obtain ⟨d, handles, about, same⟩ := EngineMoves.advances moved holds
      refine .passed d.message index (by omega) ⟨about, ?_⟩
        (.inr ⟨label, d, (handles_exec_iff executed).mpr handles, rfl⟩) ?_
      · rw [precedes.nodes, same]
        exact position
      · rintro ⟨message, listed, named, ahead⟩
        rw [touched.produced (by simp [Op.aspect])] at listed
        rw [precedes.nodes] at ahead
        obtain ⟨reachedIndex, found, below⟩ :=
          (order.produced message listed named.1 named.2).1 state stored
        have same := Option.some.inj (ahead.symm.trans found)
        omega

/-! ## Settled deliveries -/

/-- A worker keeps a message whose attempt was not settled. -/
theorem Unsettled.keeps (unsettled : Unsettled d error result) :
    World.Delivery.keeps d result = true := by
  rcases unsettled with ⟨rfl, undecided⟩ | uncommitted
  · unfold settlementOf Delivery.attempt at undecided
    unfold World.Delivery.keeps
    cases decision : classifyAttempt (deliveryAttempt d.context d.message.env) result with
    | retry => rfl
    | redeliver => rfl
    | succeeded =>
      rw [decision] at undecided
      cases undecided
    | failed =>
      rw [decision] at undecided
      cases undecided
  · obtain ⟨error, rfl, infrastructure⟩ := uncommitted
    simp [World.Delivery.keeps, classifyAttempt_of_isUncommitted infrastructure]

theorem World.Ended.dispensable (ended : w.Ended chainID) : w.Dispensable chainID nodeID := by
  intro state stored running
  rw [ended state stored] at running
  cases running

/-- A delivery drops its message only when the chain can do without it. -/
theorem Phase.Carries.dropped (carries : phase.Carries chainID w) (keeps : KeepsCarrying chainID w)
    (holds : phase.role.Holds label w) (memory : phase.OverMemory)
    (stops : DeliveryStop result phase) (handles : w.Handles label d) (about : d.message.Of chainID)
    (dropped : World.Delivery.keeps d result = false) :
    w.Dispensable chainID d.env.nodeID := by
  have same : ∀ {e : Delivery}, w.Handles label e -> e = d := fun also =>
    Option.some.inj (also.symm.trans handles)
  have kept : ∀ {error : Option GoError}, Unsettled d error result ->
      w.Dispensable chainID d.env.nodeID := by
    intro error unsettled
    rw [unsettled.keeps] at dropped
    cases dropped
  have plain : (∀ e, w.Handles label e -> e.message.workflow = none) ->
      w.Dispensable chainID d.env.nodeID := by
    intro unmentioned
    exact absurd (unmentioned d handles) (by simp [about.workflow])
  have member : ∀ {e : Delivery}, w.Handles label e ->
      e.message.kind = .batchJob -> w.Dispensable chainID d.env.nodeID := by
    intro e also kind
    rw [same also, about.1] at kind
    cases kind
  cases phase with
  | idle => exact plain holds
  | direct => exact plain holds
  | node e seen =>
    rw [DeliveryStop, keeps.ordinary holds.1] at stops
    cases stops
  | nodeRan e error =>
    obtain rfl := same holds.1
    exact kept stops
  | nodeLost e =>
    obtain rfl := same holds.1
    exact carries about.2
  | nodeFailed e =>
    obtain rfl := same holds.1
    exact World.Ended.dispensable (carries about.2)
  | nodeReported e =>
    obtain rfl := same holds.1
    exact World.Ended.dispensable (carries about.2)
  | nodeAdvanced e advance =>
    obtain rfl := same holds.1
    rcases stops with ⟨_, finished⟩ | uncommitted
    · exact World.Ended.dispensable ((carries about.2).1 finished)
    · exact @kept none (.inr uncommitted)
  | nodePosted e answer =>
    obtain rfl := same holds.1
    change if accepted answer then _ else _ at stops
    split at stops
    · rename_i taken
      exact carries about.2 taken
    · exact @kept none (.inr stops)
  | sqlNode | sqlUnsure | sqlCompleted => exact memory.elim
  | member | memberRan | memberUnsure | settled => exact member holds.1 holds.2
  | _ => exact stops.elim

/-- What carries a chain after a message was dropped that it can do without. -/
theorem Carried.of_dropped (carried : Carried chainID w state)
    (present : ∀ message, w.Present message -> message ≠ d.message -> after.Present message)
    (produced : after.produced = w.produced)
    (returned : after.returned = w.returned)
    (needless : d.message.Of chainID -> ∃ index,
      chainNodePosition state.nodes d.env.nodeID = some index ∧
      ((index : Int) + 1 < state.nextIndex ∨ ((index : Int) + 1 = state.nextIndex ∧
          w.ProducedAt chainID state.nodes (index + 1)))) :
    Carried chainID after state := by
  have position : ∀ {index : Nat}, d.message.At chainID state.nodes index ->
      (index : Int) + 1 < state.nextIndex ∨
      ((index : Int) + 1 = state.nextIndex ∧ w.ProducedAt chainID state.nodes (index + 1)) := by
    intro index placed
    obtain ⟨same, found, passed⟩ := needless placed.1
    obtain rfl := Option.some.inj (placed.2.symm.trans found)
    exact passed
  cases carried with
  | current message index next placed here =>
    refine .current message index next placed (present message here ?_)
    rintro rfl
    rcases position placed with before | ⟨before, _⟩ <;> omega
  | passed message index before placed here unproduced =>
    refine .passed message index before placed (present message here ?_) ?_
    · rintro rfl
      rcases position placed with earlier | ⟨_, sent⟩
      · omega
      · exact unproduced sent
    · rw [World.ProducedAt, produced]
      exact unproduced
  | unsent unproduced first unreturned =>
    exact .unsent (produced ▸ unproduced) first (returned ▸ unreturned)

/-- Settling a delivery keeps the chain carried. -/
theorem KeepsCarrying.settle (keeps : KeepsCarrying chainID w) (handles : w.Handles label d)
    (dropped : d.message.Of chainID -> World.Delivery.keeps d result = false ->
        w.Dispensable chainID d.env.nodeID) :
    KeepsCarrying chainID
      { w with
        handling := KeyedList.erase label w.handling
        broker := if World.Delivery.keeps d result then d.message :: w.broker
          else w.broker } := by
  refine ⟨?_, ?_⟩
  · intro other e found
    by_cases same : other = label
    · subst same
      rw [World.Handles, KeyedList.find_erase_self] at found
      cases found
    · rw [World.Handles, KeyedList.find_erase_of_ne same] at found
      exact keeps.ordinary found
  · intro state stored running
    have carried := keeps.carried state stored running
    have present : ∀ {broker : List Message}, (∀ message ∈ w.broker, message ∈ broker) ->
        ∀ message, w.Present message -> (message ≠ d.message ∨ message ∈ broker) -> World.Present
            { w with handling := KeyedList.erase label w.handling, broker := broker } message := by
      intro broker subset message here other
      rcases here with queued | ⟨handler, e, delivering, rfl⟩
      · exact .inl (subset message queued)
      · by_cases same : handler = label
        · subst same
          obtain rfl : d = e := Option.some.inj (handles.symm.trans delivering)
          exact .inl (other.resolve_left fun different => different rfl)
        · refine .inr ⟨handler, e, ?_, rfl⟩
          rw [World.Handles, KeyedList.find_erase_of_ne same]
          exact delivering
    cases kept : World.Delivery.keeps d result with
    | true =>
      refine carried.of_same rfl rfl ?_ rfl fun unreturned => unreturned
      intro message here
      refine present (fun _ listed => ?_) message here ?_
      · simp [listed]
      · by_cases same : message = d.message
        · exact .inr (by simp [same])
        · exact .inl same
    | false =>
      refine carried.of_dropped ?_ rfl rfl fun about => dropped about kept state stored running
      intro message here different
      exact present (fun _ listed => by simpa using listed) message here (.inl different)

/-- A dispatch returns only after a message of its chain was produced. -/
theorem Phase.Carries.returned (carries : phase.Carries chainID w) (orders : phase.Orders chainID w)
    (registered : Registered bound w) (sound : w.SoundChains)
    (stops : ChainStop .memory returnedID phase) (stored : w.backend.chain chainID = some state)
    (running : state.terminal = false) :
    returnedID ≠ chainID ∨ ∃ message ∈ w.produced, message.Of chainID := by
  by_cases same : returnedID = chainID
  swap
  · exact .inl same
  subst same
  have named : returnedID ≠ "" := by
    obtain ⟨owner, owned⟩ := registered.chains
      (show w.backend.chain returnedID ≠ none by simp [stored])
    exact (registered.ids owned).2
  cases phase <;> try exact stops.elim
  case idle => exact absurd stops named
  case chainDispatch => exact absurd stops named
  case chainMinted => exact absurd stops named
  case chainStored record =>
      have nodes := (orders stops.1.symm state stored).1
      rw [stops.2] at nodes
      exact absurd nodes (sound.ordered stored).nodes_ne_nil
  case chainRejected => cases stops.1
  case chainRefused => exact .inr (carries stops.symm state stored running)
  case chainDispatched => exact .inr (carries stops.symm state stored running)

end Chain

/-! ## The continuation is kept -/

/-- Every step that meets the condition keeps the chain carried. -/
theorem chainCarried_kept :
    (chainLedger chainID).KeptOver (chainCarried chainID)
      (Broker.machine .memory callbacksDisabled) (carriesOn chainID)
      (engineProtocol .memory) where
  operation := by
    intro bound label phase next before world operation answer choice _ ⟨⟨⟨registered, sound⟩,
      order⟩, keeps⟩ ⟨⟨⟨holds, memory⟩, orders⟩, carries⟩ moved executed allowed
    refine ⟨keeps.moves order registered sound carries holds memory moved executed, ?_, ?_⟩
    · cases moved with
      | quiet _ _ _ silent =>
        exact Phase.Carries.mono (.exec sound executed
          (by simp [(Op.quiet_creates silent).1])) carries
      | direct => trivial
      | chainDispatch move =>
        exact carries.dispatch_moves registered sound keeps orders executed move
      | node move =>
        exact carries.node_moves registered sound keeps orders executed order holds move allowed
      | sqlNode move => cases move <;> exact memory.elim
      | batchDispatch move => cases move <;> trivial
      | member move => cases move <;> trivial
    · intro other otherPhase _ different known otherCarries
      rcases EngineMoves.continues_or_unused sound moved executed
        chainID holds with continues | ⟨_, owned, unused⟩
      · exact Phase.Carries.mono ⟨continues, fun _ listed =>
          World.exec_produced_subset executed listed⟩ otherCarries
      · exact .of_subject (Role.Holds.chain?_ne_of_unused known.1.1 registered
          unused owned different)
  blocked := by
    intro bound label before world operation choice _ _ executed
    exact absurd executed World.exec_answered
  finished := by
    intro bound label phase before world result _ ⟨⟨⟨registered, sound⟩, order⟩, keeps⟩
      ⟨⟨⟨holds, memory⟩, orders⟩, carries⟩ stops settled
    have grows : World.Grows chainID before world := .aside (.finish settled)
    refine ⟨?_, fun _ _ _ _ _ known => Phase.Carries.mono grows known⟩
    rcases World.finish_cases settled with
      ⟨error, d, rfl, handles, rfl⟩ | ⟨returnedID, error, rfl, rfl⟩ |
      ⟨_, _, _, rfl⟩
    · exact keeps.settle handles fun about dropped =>
        carries.dropped keeps holds memory stops handles about dropped
    · refine ⟨keeps.ordinary, ?_⟩
      intro state stored running
      have carried := keeps.carried state stored running
      rcases carries.returned orders registered sound stops stored running with
        different | ⟨message, listed, about⟩
      · refine carried.of_same rfl rfl (fun _ here => here) rfl ?_
        intro unreturned listed
        rcases List.mem_cons.mp listed with same | listed
        · exact different same.symm
        · exact unreturned listed
      · cases carried with
        | current other index next placed here => exact .current other index next placed here
        | passed other index earlier placed here unproduced =>
          exact .passed other index earlier placed here unproduced
        | unsent unproduced => exact absurd about (unproduced message listed)
    · exact keeps
  idle := by
    intro bound before world move ⟨⟨⟨registered, _⟩, _⟩, keeps⟩ moved _
    refine ⟨?_, fun _ _ _ _ _ known =>
      Phase.Carries.mono (.aside (.external moved)) known⟩
    rcases external_idle moved with
      ⟨_, message, _, produced, rfl⟩ | ⟨cutoff, _, rfl⟩ | ⟨_, _, rfl⟩ <;>
      refine ⟨keeps.ordinary, fun state stored running => ?_⟩
    · refine (keeps.carried state stored running).of_same rfl rfl ?_ rfl id
      rintro other (queued | handled)
      · exact .inl (List.mem_cons_of_mem _ queued)
      · exact .inr handled
    · rcases Backend.prune_chain before.backend cutoff chainID with same | gone
      · exact (keeps.carried state (same.symm.trans stored) running).of_same
          rfl rfl (fun _ here => here) rfl id
      · cases gone.symm.trans stored
    · exact (keeps.carried state stored running).of_same rfl rfl (fun _ here => here) rfl id
  started := by
    intro bound before world move program phase ⟨⟨⟨registered, _⟩, _⟩, keeps⟩ moved allowed entered
    refine ⟨?_, ?_, fun _ _ _ _ _ known =>
      Phase.Carries.mono (.aside (.external moved)) known⟩
    · rcases external_started moved with ⟨_, rfl⟩ | ⟨_, rfl⟩ | ⟨index, d, rfl, found, _, rfl⟩
      · exact keeps
      · exact keeps
      refine ⟨?_, ?_⟩
      · intro other e handles
        rcases handOver_handles_iff.mp handles with ⟨_, rfl⟩ | ⟨_, earlier⟩
        · have unrecovered : recoveredDeliveryProvenance e.context = none := allowed
          simp [Delivery.recovered, unrecovered]
        · exact keeps.ordinary earlier
      · intro state stored running
        exact (keeps.carried state stored running).of_same rfl rfl
          (fun _ here => here.handOver registered found) rfl id
    · rcases EngineEntry.memory_cases entered with
        rfl | rfl | rfl | rfl | ⟨_, rfl⟩ | ⟨_, rfl⟩ <;> trivial

/-- Over the memory store, in every run whose deliveries recover nothing and
never report the failure of a node that alone carries the chain, an unfinished
chain whose dispatch has returned has a message in the broker or in the hands
of a worker. -/
theorem chain_continuation_present (callbacksDisabled : Bool) (chainID : String)
    {config : Broker.Configuration} {state : ChainState}
    (reached : (Broker.machine .memory callbacksDisabled).Reaches
      (carriesOn chainID) (Broker.start .memory) config)
    (stored : config.world.backend.chain chainID = some state)
    (incomplete : state.completed = false) (unfailed : state.failed = false)
    (returned : chainID ∈ config.world.returned) :
    ∃ message, message.Of chainID ∧ config.world.Present message := by
  have kept := ((chainLedger_kept callbacksDisabled chainID).restrict).over chainCarried_kept
  have initial : ((chainLedger chainID).and (chainCarried chainID)).Hold
      (engineProtocol .memory) (Broker.start .memory) := by
    refine .initial ⟨chainLedger_initial, ?_, ?_⟩
    · intro label d handles
      cases handles
    · intro state stored
      cases stored
  have hold := initial.reaches (Broker.governs .memory callbacksDisabled) kept reached
  have running : state.terminal = false := by simp [ChainState.terminal, incomplete, unfailed]
  cases hold.shared.2.carried state stored running with
  | current message index next placed present => exact ⟨message, placed.1, present⟩
  | passed message index before placed present => exact ⟨message, placed.1, present⟩
  | unsent _ _ unreturned => exact absurd returned unreturned

/-- The first node succeeds, but its successor cannot be enqueued. -/
def successorRejected : List (Action Choice Move) :=
  .external (.deliver 0 {}) :: Broker.perform 1 [.plain, .suffix "7", .plain, .registered true,
      .result none, .plain, .plain, .plain, .plain, .plain, .suffix "8",
      .enqueue (.rejected (.text "full")), .plain]

/-- The unfinished chain waits for its second node and its dispatch has
returned. -/
def awaitsSecondNode (config : Broker.Configuration) : Bool :=
  (config.world.backend.chain "chn_1").any (fun state => !state.completed && !state.failed) &&
  decide ("chn_1" ∈ config.world.returned)

theorem chain_continuation_present_rejected :
    ∃ config state,
      (Broker.machine .memory false).Reaches (carriesOn "chn_1") (Broker.start .memory) config ∧
      config.world.backend.chain "chn_1" = some state ∧ "chn_1" ∈ config.world.returned ∧ ∃ message,
      message.Of "chn_1" ∧ config.world.Present message := by
  have passed : ((Broker.machine .memory false).run (carriesOn "chn_1")
      (Broker.start .memory) (twoNodeDispatch ++ successorRejected)).any
        awaitsSecondNode = true := by
    decide +kernel
  obtain ⟨config, reached, seen⟩ := Machine.Reaches.of_any passed
  obtain ⟨stored, returned⟩ := Bool.and_eq_true_iff.mp seen
  obtain ⟨state, found, running⟩ := (Option.any_eq_true _ _).mp stored
  have listed := of_decide_eq_true returned
  simp only [Bool.and_eq_true, Bool.not_eq_eq_eq_not, Bool.not_true] at running
  exact ⟨config, state, reached, found, listed,
    chain_continuation_present false "chn_1" reached found running.1 running.2 listed⟩

/-- The first node is delivered again and now fails. -/
def firstNodeFails : List (Action Choice Move) :=
  .external (.deliver 0 {}) :: Broker.perform 2 [.plain, .suffix "9", .plain, .registered true,
      .result (some (.permanent (.text "failed"))), .plain, .plain, .plain]

/-- A node whose success is recorded reports a failure when it is delivered
again: the delivery is acknowledged and the chain is stranded. -/
theorem chain_continuation_lost :
    ∃ config state,
      (Broker.machine .memory false).Reaches unrecovered (Broker.start .memory) config ∧
      config.world.backend.chain "chn_1" = some state ∧ state.completed = false ∧
      state.failed = false ∧ "chn_1" ∈ config.world.returned ∧ ∀ message,
      ¬config.world.Present message := by
  have passed : ((Broker.machine .memory false).run unrecovered (Broker.start .memory)
      (twoNodeDispatch ++ successorRejected ++ firstNodeFails)).any
        (fun config => awaitsSecondNode config &&
          config.world.broker.isEmpty && config.world.handling.isEmpty) =
      true := by
    decide +kernel
  obtain ⟨config, reached, seen⟩ := Machine.Reaches.of_any passed
  simp only [awaitsSecondNode, Bool.and_eq_true, List.isEmpty_iff, decide_eq_true_eq] at seen
  obtain ⟨⟨⟨stored, returned⟩, broker⟩, handling⟩ := seen
  obtain ⟨state, found, running⟩ := (Option.any_eq_true _ _).mp stored
  simp only [Bool.and_eq_true, Bool.not_eq_eq_eq_not, Bool.not_true] at running
  refine ⟨config, state, reached, found, running.1, running.2, returned, ?_⟩
  rintro message (queued | ⟨label, d, handles, _⟩)
  · simp [broker] at queued
  · simp [World.Handles, handling, KeyedList.find] at handles

end JobQueue.Workflow
