import JobQueue.Workflow.Conformance.Programs
import JobQueue.Workflow.Runs.BatchChanges

/-!
# Who may speak of a workflow

Identifiers are generated once, so a workflow belongs to the program that
generated its identifier. Until that program stores the workflow and enqueues
its messages, nothing in the system mentions it; afterwards only deliveries of
those messages and the program itself do. This ledger is kept by every run
over either store, and the statements about workflows rest on it.
-/

namespace JobQueue.Workflow

open Interleaving

/-- Deliveries that belong to a stored workflow. -/
def DeliveryType.ofWorkflow : DeliveryType -> Bool
  | .direct => false
  | .chainNode => true
  | .batchJob => true
  | .callback => false

/-- The workflow that a message belongs to. -/
def Message.workflow (message : Message) : Option String :=
  match message.kind with
  | .direct => none
  | .chainNode => some message.env.chainID
  | .batchJob => some message.env.batchID
  | .callback => none

/-- The workflow that a transition is about. -/
def Transition.workflow : Transition -> String
  | .chainCompleted chainID => chainID
  | .chainFailed chainID => chainID
  | .batchCompleted batchID => batchID
  | .batchCancelled batchID _ => batchID

namespace World

/-- The program generated the identifier. -/
def Owns (w : World) (label : Nat) (id : String) : Prop :=
  KeyedList.find id w.ids = some label

/-- Some program generated the identifier. -/
def Known (w : World) (id : String) : Prop :=
  ∃ label, w.Owns label id

/-- The program handles a delivery. -/
def Handles (w : World) (label : Nat) (d : Delivery) : Prop :=
  KeyedList.find label w.handling = some d

/-- The program handles no delivery. -/
def Free (w : World) (label : Nat) : Prop :=
  KeyedList.find label w.handling = none

variable {w : World}

/-- A program that handles nothing handles no message of a workflow. -/
theorem Free.plain (free : w.Free label) : ∀ d, w.Handles label d -> d.message.workflow = none := by
  intro d handles
  rw [Free, handles] at free
  cases free

theorem Owns.unique {id : String} (owned : w.Owns label id) (alsoOwned : w.Owns other id) :
    label = other :=
  Option.some.inj (owned.symm.trans alsoOwned)

/-- No message of the workflow was enqueued and its dispatch has not
returned. -/
structure Unsent (w : World) (id : String) : Prop where
  produced : ∀ message ∈ w.produced, message.workflow ≠ some id
  rejected : id ∉ w.rejected
  returned : id ∉ w.returned

/-- Nothing mentions the workflow. -/
structure Unused (w : World) (id : String) : Prop extends w.Unsent id where
  chain : w.backend.chain id = none
  batch : w.backend.summary id = none
  transitions : ∀ entry ∈ w.transitions, entry.2.workflow ≠ id

/-- The program may mention the workflow: it generated the identifier, or
messages of the workflow exist. -/
def Speaks (w : World) (label : Nat) (id : String) : Prop :=
  w.Owns label id ∨ ∃ message ∈ w.produced, message.workflow = some id

end World

/-! ## Roles -/

/-- What a program is about, as far as the ledger is concerned. -/
inductive Role
  | plain
  | dispatch
  | minted (id : String)
  | unsent (id : String)
  | rejected (id : String)
  | dispatched (id : String)
  | batch (id : String)
  | delivering (d : Delivery) (kind : DeliveryType)

/-- The role of a program in a phase. -/
def Phase.role : Phase -> Role
  | .idle => .plain
  | .direct => .plain
  | .chainDispatch => .dispatch
  | .chainMinted chainID => .minted chainID
  | .chainStored record => .unsent record.chainID
  | .chainPosting record _ _ => .unsent record.chainID
  | .chainRejected record _ _ => .rejected record.chainID
  | .chainRefused record => .rejected record.chainID
  | .chainDispatched record => .dispatched record.chainID
  | .node d _ => .delivering d .chainNode
  | .nodeRan d _ => .delivering d .chainNode
  | .nodeLost d => .delivering d .chainNode
  | .nodeFailed d => .delivering d .chainNode
  | .nodeReported d => .delivering d .chainNode
  | .nodeAdvanced d _ => .delivering d .chainNode
  | .nodePosting d _ _ => .delivering d .chainNode
  | .nodePosted d _ => .delivering d .chainNode
  | .sqlNode d => .delivering d .chainNode
  | .sqlUnsure d => .delivering d .chainNode
  | .sqlCompleted d => .delivering d .chainNode
  | .batchDispatch => .dispatch
  | .batchMinted batchID => .minted batchID
  | .batchStored record => .batch record.batchID
  | .batchRejected record => .batch record.batchID
  | .batchCancelled record _ => .batch record.batchID
  | .member d _ => .delivering d .batchJob
  | .memberRan d _ => .delivering d .batchJob
  | .memberUnsure d _ _ => .delivering d .batchJob
  | .settled d _ _ _ => .delivering d .batchJob

/-- What the ledger knows of a program in a role. -/
def Role.Holds (label : Nat) (w : World) : Role -> Prop
  | .plain => ∀ d, w.Handles label d -> d.message.workflow = none
  | .dispatch => w.Free label
  | .minted id => w.Free label ∧ w.Owns label id ∧ w.Unused id
  | .unsent id => w.Free label ∧ w.Owns label id ∧ w.Unsent id
  | .rejected id => w.Free label ∧ w.Owns label id ∧ id ∈ w.rejected ∧ id ∉ w.returned
  | .dispatched id => w.Free label ∧ w.Owns label id ∧ id ∉ w.returned
  | .batch id => w.Free label ∧ w.Owns label id
  | .delivering d kind => w.Handles label d ∧ d.message.kind = kind

/-- The workflow that a role asserts to be unmentioned. -/
def Role.guarded : Role -> Option String
  | .minted id => some id
  | .unsent id => some id
  | _ => none

theorem Role.Holds.owns {role : Role} (holds : role.Holds label w) {id : String}
    (guarded : role.guarded = some id) : w.Owns label id := by
  cases role <;> cases guarded <;> exact holds.2.1

/-- What the ledger knows of the world. -/
structure Registered (bound : Nat) (w : World) : Prop where
  ids : ∀ {label id}, w.Owns label id -> label < bound ∧ id ≠ ""
  facts : ∀ entry ∈ w.facts, entry.1 < bound
  transitions : ∀ entry ∈ w.transitions, entry.1 < bound
  handled : ∀ {label d}, w.Handles label d -> label < bound ∧ d.message ∈ w.produced ∧
      d.context.generationID ∈ w.generations
  queued : ∀ message ∈ w.broker, message ∈ w.produced
  starts : ∀ start ∈ w.starts, start.kind.ofWorkflow = true ->
    ∃ d : Delivery, d.message ∈ w.produced ∧ d.message.kind = start.kind ∧ start.env = d.executed
  generations : ∀ {label other d e}, w.Handles label d -> w.Handles other e ->
    label ≠ other -> d.context.generationID ≠ "" -> d.context.generationID ≠ e.context.generationID
  produced : ∀ message ∈ w.produced, ∀ id, message.workflow = some id -> w.Known id
  chains : ∀ {id}, w.backend.chain id ≠ none -> w.Known id
  batches : ∀ {id}, w.backend.summary id ≠ none -> w.Known id
  history : ∀ entry ∈ w.transitions, w.Known entry.2.workflow
  rejected : ∀ id ∈ w.rejected, w.Known id
  returned : ∀ id ∈ w.returned, id = "" ∨ w.Known id

/-- The ledger as assertions about the machine. -/
def ledger : Assertions World Phase where
  shared := Registered
  thread := fun label phase w => phase.role.Holds label w

/-! ## Operations -/

section Operation

variable {w : World} {operation : Op} {answer : operation.Answer}

variable {kind : DeliveryType}

/-- What is known of a program survives a change of the world that keeps what
its role speaks of. -/
theorem Role.Holds.carried {role : Role} (holds : role.Holds other w)
    (handling : KeyedList.find other after.handling = KeyedList.find other w.handling)
    (owns : ∀ {id}, w.Owns other id -> after.Owns other id)
    (unsent : ∀ id, role.guarded = some id -> w.Owns other id -> w.Unsent id -> after.Unsent id)
    (unused : ∀ id, role.guarded = some id -> w.Owns other id -> w.Unused id -> after.Unused id)
    (rejected : ∀ id, id ∈ w.rejected -> id ∈ after.rejected)
    (returned : ∀ id, w.Owns other id -> id ∈ after.returned -> id ∈ w.returned) :
    role.Holds other after := by
  have free : w.Free other -> after.Free other := handling.trans
  cases role with
  | plain =>
    intro d handles
    exact holds d (handling.symm.trans handles)
  | dispatch => exact free holds
  | minted id =>
    obtain ⟨isFree, owned, known⟩ := holds
    exact ⟨free isFree, owns owned, unused id rfl owned known⟩
  | unsent id =>
    obtain ⟨isFree, owned, known⟩ := holds
    exact ⟨free isFree, owns owned, unsent id rfl owned known⟩
  | rejected id =>
    obtain ⟨isFree, owned, listed, unreturned⟩ := holds
    exact ⟨free isFree, owns owned, rejected id listed,
      fun gone => unreturned (returned id owned gone)⟩
  | dispatched id =>
    obtain ⟨isFree, owned, unreturned⟩ := holds
    exact ⟨free isFree, owns owned, fun gone => unreturned (returned id owned gone)⟩
  | batch id => exact ⟨free holds.1, owns holds.2⟩
  | delivering d kind => exact ⟨handling.trans holds.1, holds.2⟩

section Executed

variable (executed : World.exec label w operation choice = some (some answer, after))

include executed

/-- A new transition is made by the program that moved, on a stored
workflow. -/
theorem exec_mem_transitions (listed : entry ∈ after.transitions) :
    entry ∈ w.transitions ∨ (entry.1 = label ∧ (w.backend.chain entry.2.workflow ≠ none ∨
        w.backend.summary entry.2.workflow ≠ none)) := by
  have kinds : entry.2.chain? = some entry.2.workflow ∨ entry.2.batch? = some entry.2.workflow := by
    cases entry.2 <;> simp [Transition.chain?, Transition.batch?, Transition.workflow]
  rcases kinds with about | about
  · rcases (World.exec_chainTransitions executed about entry.1).mp listed with earlier | ⟨own, set⟩
    · exact .inl earlier
    · refine .inr ⟨own, .inl fun absent => ?_⟩
      rw [absent] at set
      cases set
  · rcases (World.exec_batchTransitions executed about entry.1).mp listed with earlier | ⟨own, set⟩
    · exact .inl earlier
    · refine .inr ⟨own, .inr fun absent => ?_⟩
      rw [absent] at set
      cases set

theorem exec_chain_ne_none {id : String} (stored : after.backend.chain id ≠ none) :
    w.backend.chain id ≠ none ∨ operation.createsChain = some id := by
  rcases World.exec_chain executed id with same | ⟨_, changed⟩ | ⟨creates, _⟩
  · exact .inl (same ▸ stored)
  · exact .inl (changed.ne_none_iff.mpr stored)
  · exact .inr creates

theorem exec_summary_ne_none {id : String} (stored : after.backend.summary id ≠ none) :
    w.backend.summary id ≠ none ∨ operation.createsBatch = some id := by
  rcases World.exec_batch executed id with
    same | ⟨_, _, _, old, _, found, _⟩ | ⟨_, old, found, _⟩ | ⟨creates, _⟩
  · exact .inl (same ▸ stored)
  · exact .inl (by simp [found])
  · exact .inl (by simp [found])
  · exact .inr creates

theorem World.Known.exec {id : String} (known : w.Known id) : after.Known id := by
  obtain ⟨owner, owned⟩ := known
  exact ⟨owner, World.exec_find_ids executed owned⟩

theorem handles_exec_iff : after.Handles other d ↔ w.Handles other d := by
  rw [World.Handles, World.Handles, (World.exec_touched executed).handling]

theorem World.Free.exec (free : w.Free other) : after.Free other := by
  rw [World.Free, (World.exec_touched executed).handling]
  exact free

theorem World.Owns.exec {id : String} (owned : w.Owns other id) : after.Owns other id :=
  World.exec_find_ids executed owned

/-- An operation keeps the ledger of the world when what it creates is owned
and what it enqueues is spoken of. -/
theorem Registered.exec (registered : Registered bound w) (bounded : label < bound)
    (creates : ∀ id, operation.createsChain = some id ∨
      operation.createsBatch = some id -> w.Owns label id)
    (posts : ∀ kind env id, operation = .busDispatch kind env ->
      Message.workflow { kind := kind, env := env } = some id -> w.Speaks label id)
    (handles : ∀ env, operation = .handle env -> (w.starting label env).kind.ofWorkflow = true ->
        ∃ d, w.Handles label d ∧ env = d.executed) :
    Registered bound after := by
  have touched := World.exec_touched executed
  have known : ∀ {id}, w.Known id -> after.Known id := fun earlier => earlier.exec executed
  have spoken : ∀ id, w.Speaks label id -> after.Known id := by
    rintro id (owned | ⟨message, listed, about⟩)
    · exact known ⟨label, owned⟩
    · exact known (registered.produced message listed id about)
  refine ⟨?_, ?_, ?_, ?_, ?_, ?_, ?_, ?_, ?_, ?_, ?_, ?_, ?_⟩
  · intro owner id owned
    rcases World.exec_find_ids_inv executed owned with earlier | ⟨rfl, named⟩
    · exact registered.ids earlier
    · exact ⟨bounded, named⟩
  · intro entry listed
    rcases World.exec_mem_facts executed listed with earlier | own
    · exact registered.facts entry earlier
    · omega
  · intro entry listed
    rcases exec_mem_transitions executed listed with earlier | ⟨own, _⟩
    · exact registered.transitions entry earlier
    · omega
  · intro other d handles
    rw [handles_exec_iff executed] at handles
    obtain ⟨below, produced, generation⟩ := registered.handled handles
    refine ⟨below, World.exec_produced_subset executed produced, ?_⟩
    rw [touched.generations]
    exact generation
  · intro message listed
    rcases World.exec_mem_broker executed listed with earlier | produced
    · exact World.exec_produced_subset executed (registered.queued message earlier)
    · exact produced
  · intro start listed queued
    rcases World.exec_mem_starts executed listed with earlier | ⟨env, rfl, rfl⟩
    · obtain ⟨d, produced, kind, same⟩ := registered.starts start earlier queued
      exact ⟨d, World.exec_produced_subset executed produced, kind, same⟩
    · obtain ⟨d, delivered, same⟩ := handles env rfl queued
      refine ⟨d, World.exec_produced_subset executed (registered.handled delivered).2.1, ?_, same⟩
      simp [World.starting, show KeyedList.find label w.handling = some d from delivered]
  · intro first second d e handlesFirst handlesSecond
    rw [handles_exec_iff executed] at handlesFirst handlesSecond
    exact registered.generations handlesFirst handlesSecond
  · intro message listed id about
    rcases World.exec_mem_produced executed listed with earlier | ⟨kind, env, rfl, rfl⟩
    · exact known (registered.produced message earlier id about)
    · exact spoken id (posts kind env id rfl about)
  · intro id stored
    rcases exec_chain_ne_none executed stored with earlier | created
    · exact known (registered.chains earlier)
    · exact known ⟨label, creates id (.inl created)⟩
  · intro id stored
    rcases exec_summary_ne_none executed stored with earlier | created
    · exact known (registered.batches earlier)
    · exact known ⟨label, creates id (.inr created)⟩
  · intro entry listed
    rcases exec_mem_transitions executed listed with earlier | ⟨_, stored⟩
    · exact known (registered.history entry earlier)
    · rcases stored with stored | stored
      · exact known (registered.chains stored)
      · exact known (registered.batches stored)
  · intro id listed
    rcases World.exec_mem_rejected executed listed with earlier | ⟨env, rfl, rfl⟩
    · exact known (registered.rejected id earlier)
    · exact spoken _ (posts _ env _ rfl rfl)
  · intro id listed
    rw [touched.returned] at listed
    exact (registered.returned id listed).imp_right known

section Posted

variable {id : String}
  (posted : ∀ kind env, operation = .busDispatch kind env ->
    Message.workflow { kind := kind, env := env } = some id ->
      ∃ message ∈ w.produced, message.workflow = some id)
include posted

/-- An operation that neither creates an owned workflow nor enqueues its first
message leaves it unsent. -/
theorem World.Unsent.exec (unsent : w.Unsent id) : after.Unsent id := by
  refine ⟨?_, ?_, ?_⟩
  · intro message listed about
    rcases World.exec_mem_produced executed listed with earlier | ⟨kind, env, sent, rfl⟩
    · exact unsent.produced message earlier about
    · obtain ⟨other, produced, same⟩ := posted kind env sent about
      exact unsent.produced other produced same
  · intro listed
    rcases World.exec_mem_rejected executed listed with earlier | ⟨env, sent, rfl⟩
    · exact unsent.rejected earlier
    · obtain ⟨other, produced, same⟩ := posted _ env sent rfl
      exact unsent.produced other produced same
  · rw [(World.exec_touched executed).returned]
    exact unsent.returned

theorem World.Unused.exec (unused : w.Unused id)
    (created : operation.createsChain ≠ some id ∧ operation.createsBatch ≠ some id) :
    after.Unused id := by
  refine ⟨unused.toUnsent.exec executed posted, ?_, ?_, ?_⟩
  · by_contra stored
    rcases exec_chain_ne_none executed stored with earlier | creates
    · exact earlier unused.chain
    · exact created.1 creates
  · by_contra stored
    rcases exec_summary_ne_none executed stored with earlier | creates
    · exact earlier unused.batch
    · exact created.2 creates
  · rintro entry listed rfl
    rcases exec_mem_transitions executed listed with earlier | ⟨_, stored | stored⟩
    · exact unused.transitions entry earlier rfl
    · exact stored unused.chain
    · exact stored unused.batch

end Posted

/-- An operation keeps what is known of a program whose workflow it leaves
alone. -/
theorem Role.Holds.exec {role : Role} (holds : role.Holds other w)
    (created : ∀ id, role.guarded = some id ->
      operation.createsChain ≠ some id ∧ operation.createsBatch ≠ some id)
    (posted : ∀ kind env id, operation = .busDispatch kind env ->
      Message.workflow { kind := kind, env := env } = some id ->
      role.guarded = some id -> ∃ message ∈ w.produced, message.workflow = some id) :
    role.Holds other after := by
  have touched := World.exec_touched executed
  refine holds.carried (by rw [touched.handling]) (fun owned => owned.exec executed) ?_ ?_
    (fun _ => World.exec_rejected_subset executed) fun _ _ listed => touched.returned ▸ listed
  · intro id guarded _ unsent
    exact unsent.exec executed fun kind env sent about => posted kind env id sent about guarded
  · intro id guarded _ unused
    exact unused.exec executed (fun kind env sent about => posted kind env id sent about guarded)
      (created id guarded)

end Executed

/-! ## Moves -/

/-- A quiet operation creates nothing. -/
theorem Op.quiet_creates (quiet : operation.quiet = true) :
    operation.createsChain = none ∧ operation.createsBatch = none := by
  cases operation with
  | memory call => cases call <;> first | exact ⟨rfl, rfl⟩ | cases quiet
  | sql statement => cases statement <;> first | exact ⟨rfl, rfl⟩ | cases quiet
  | _ => exact ⟨rfl, rfl⟩

/-- A quiet operation enqueues only callbacks. -/
theorem Op.quiet_posts (quiet : (Op.busDispatch kind env).quiet = true) :
    Message.workflow { kind := kind, env := env } = none := by
  have callback : kind = .callback := by simpa [Op.quiet] using quiet
  rw [callback]
  rfl

/-- Only a program that has just generated an identifier creates a workflow
under it. -/
theorem EngineMoves.creates (moved : EngineMoves phase operation answer next) {id : String}
    (creates : operation.createsChain = some id ∨ operation.createsBatch = some id) :
    phase.role = .minted id := by
  cases moved with
  | quiet _ _ _ silent =>
    have none := Op.quiet_creates silent
    rw [none.1, none.2] at creates
    rcases creates with creates | creates <;> cases creates
  | direct => rcases creates with creates | creates <;> cases creates
  | chainDispatch move =>
    cases move <;> rcases creates with creates | creates <;> cases creates <;> rfl
  | node move => cases move <;> rcases creates with creates | creates <;> cases creates
  | sqlNode move => cases move <;> rcases creates with creates | creates <;> cases creates
  | batchDispatch move =>
    cases move <;> rcases creates with creates | creates <;> cases creates <;> rfl
  | member move => cases move <;> rcases creates with creates | creates <;> cases creates

/-- Programs enqueue messages of workflows they may speak of. -/
theorem EngineMoves.posts (moved : EngineMoves phase (.busDispatch kind env) sent next)
    (registered : Registered bound w) (holds : phase.role.Holds label w)
    {id : String}
    (about : Message.workflow { kind := kind, env := env } = some id) :
    w.Speaks label id := by
  have delivered : ∀ {d : Delivery}, w.Handles label d ->
      d.message.kind = .chainNode -> id = d.env.chainID -> w.Speaks label id := by
    intro d handles node same
    refine .inr ⟨d.message, (registered.handled handles).2.1, ?_⟩
    simp [Message.workflow, node, same]
  cases moved with
  | quiet _ _ _ silent =>
    rw [Op.quiet_posts silent] at about
    cases about
  | chainDispatch move =>
    cases move with
    | post => cases about; exact .inl holds.2.1
    | postRejected => cases about; exact .inl holds.2.1
  | node move =>
    cases move with
    | post => cases about; exact delivered holds.1 holds.2 rfl
  | sqlNode move =>
    cases move with
    | post d env answer same =>
      cases about
      exact delivered holds.1 holds.2 same
  | batchDispatch move =>
    cases move with
    | post => cases about; exact .inl holds.2
    | postRejected => cases about; exact .inl holds.2
  | member move => cases move

/-- A delivery starts the handler of the message it delivers. -/
theorem EngineMoves.handles (moved : EngineMoves phase (.handle env) error next)
    (holds : phase.role.Holds label w) (stored : (w.starting label env).kind.ofWorkflow = true) :
    ∃ d, w.Handles label d ∧ env = d.executed := by
  cases moved with
  | quiet _ _ _ silent => cases silent
  | direct =>
    cases delivered : KeyedList.find label w.handling with
    | none => simp [World.starting, delivered, DeliveryType.ofWorkflow] at stored
    | some d =>
      have plain := holds d delivered
      simp only [World.starting, delivered, Option.map_some, Option.getD_some] at stored
      cases kind : d.message.kind <;>
        simp [Message.workflow, DeliveryType.ofWorkflow, kind] at plain stored
  | chainDispatch move => cases move
  | node move =>
    cases move with
    | handle => exact ⟨_, holds.1, rfl⟩
  | sqlNode move =>
    cases move with
    | handle => exact ⟨_, holds.1, rfl⟩
  | batchDispatch move => cases move
  | member move =>
    cases move with
    | handle => exact ⟨_, holds.1, rfl⟩

/-- Nothing mentions an identifier that was not generated. -/
theorem Registered.unused (registered : Registered bound w) {id : String} (fresh : ¬w.Known id)
    (nonempty : id ≠ "") : w.Unused id := by
  refine ⟨⟨?_, ?_, ?_⟩, ?_, ?_, ?_⟩
  · intro message listed about
    exact fresh (registered.produced message listed id about)
  · exact fun listed => fresh (registered.rejected id listed)
  · intro listed
    rcases registered.returned id listed with empty | known
    · exact nonempty empty
    · exact fresh known
  · by_contra stored
    exact fresh (registered.chains stored)
  · by_contra stored
    exact fresh (registered.batches stored)
  · rintro entry listed rfl
    exact fresh (registered.history entry listed)

/-- A generated identifier belongs to the program and is unused. -/
theorem minted_holds {kind id : String} (registered : Registered bound w) (free : w.Free label)
    (executed : World.exec label w (.newID kind) choice = some (some id, after)) :
    (Role.minted id).Holds label after := by
  obtain ⟨fresh, named, rfl⟩ := World.exec_newID executed
  have unknown : ¬w.Known id := by
    rintro ⟨owner, owned⟩
    rw [World.Owns, fresh] at owned
    cases owned
  have unused := registered.unused unknown named
  refine ⟨free, ?_, ⟨⟨unused.produced, unused.rejected, unused.returned⟩,
    unused.chain, unused.batch, unused.transitions⟩⟩
  simp [World.Owns, KeyedList.find]

/-- A rejected first message is noted. -/
theorem mem_rejected_of_post (node : message.kind = .chainNode) (free : w.Free label)
    (answered : outcome.answer = some error) (refused : accepted (some error) = false) :
    message.env.chainID ∈ (w.post label message outcome).rejected := by
  have unhandled : (KeyedList.find label (w.enqueue message outcome).handling).isNone = true := by
    rw [World.enqueue_eq]
    simpa [World.Free] using free
  have unexecuted : (acceptedExecutionError outcome.answer).isNone = true := by
    rw [answered]
    simpa [accepted] using refused
  unfold World.post World.noteRejection
  rw [if_pos ⟨node, unhandled, by simp [answered], unexecuted⟩]
  exact List.mem_cons_self

theorem EngineMoves.role_holds (moved : EngineMoves phase operation answer next)
    (registered : Registered bound w) (holds : phase.role.Holds label w)
    (executed : World.exec label w operation choice = some (some answer, after)) :
    next.role.Holds label after := by
  have keep : ∀ {role : Role}, role.Holds label w -> role.guarded = none ->
      role.Holds label after := by
    intro role holds unguarded
    refine holds.exec executed ?_ ?_
    · simp [unguarded]
    · simp [unguarded]
  have touched := World.exec_touched executed
  cases moved with
  | quiet _ _ _ silent =>
    have creates := Op.quiet_creates silent
    refine holds.exec executed (by simp [creates.1, creates.2]) ?_
    rintro kind env id rfl about
    rw [Op.quiet_posts silent] at about
    cases about
  | direct => exact keep holds rfl
  | chainDispatch move =>
    cases move with
    | mint => exact minted_holds registered holds executed
    | create | insert =>
      refine ⟨holds.1.exec executed, holds.2.1.exec executed, holds.2.2.toUnsent.exec executed ?_⟩
      intro kind env sent
      cases sent
    | createRefused | insertRefused => exact (holds.1.exec executed).plain
    | mintJob =>
      refine holds.exec executed (by simp [Op.createsChain, Op.createsBatch]) ?_
      intro kind env other sent
      cases sent
    | post =>
      refine ⟨holds.1.exec executed, holds.2.1.exec executed, ?_⟩
      rw [touched.returned]
      exact holds.2.2.returned
    | postRejected record first id error refused =>
      refine ⟨holds.1.exec executed, holds.2.1.exec executed, ?_, ?_⟩
      · obtain ⟨outcome, _, answered, rfl⟩ := World.exec_busDispatch executed
        exact mem_rejected_of_post rfl holds.1 answered.symm refused
      · rw [touched.returned]
        exact holds.2.2.returned
    | fail | failSql | failSqlOther | sawFailed => exact keep holds rfl
    | failLost | failRefused | report =>
      obtain ⟨free, owned, _, unreturned⟩ := keep holds rfl
      exact ⟨free, owned, unreturned⟩
  | node move => cases move <;> exact keep holds rfl
  | sqlNode move => cases move <;> exact keep holds rfl
  | batchDispatch move =>
    cases move with
    | mint => exact minted_holds registered holds executed
    | create | insert => exact ⟨holds.1.exec executed, holds.2.1.exec executed⟩
    | createRefused | insertOther | cancelRefused | cancelSqlRefused =>
      exact (holds.1.exec executed).plain
    | post | postRejected | cancel | cancelSql | reportFailed
    | reportCancelled => exact keep holds rfl
  | member move => cases move <;> exact keep holds rfl

end Operation

/-! ## The other steps -/

theorem filter_cases {α : Type} (stored : Option α) (keeps : α -> Bool) :
    stored.filter keeps = stored ∨ stored.filter keeps = none := by
  cases stored with
  | none => exact .inl rfl
  | some entry => cases kept : keeps entry <;> simp [Option.filter, kept]

theorem Backend.prune_chain (backend : Backend) (cutoff : Time) (id : String) :
    (backend.prune cutoff).chain id = backend.chain id ∨
      (backend.prune cutoff).chain id = none := by
  cases backend with
  | memory store =>
    exact (filter_cases (store.chains id) _).imp (congrArg (Option.map _)) (congrArg (Option.map _))
  | sql db => exact filter_cases (db.chains id) _

theorem Backend.prune_summary (backend : Backend) (cutoff : Time) (id : String) :
    (backend.prune cutoff).summary id = backend.summary id ∨
      (backend.prune cutoff).summary id = none := by
  cases backend with
  | memory store =>
    exact (filter_cases (store.batch id) _).imp (congrArg (Option.map _)) (congrArg (Option.map _))
  | sql db =>
    simp only [prune, summary, batch, Database.prune]
    cases db.batches id with
    | none => exact .inl rfl
    | some row =>
      cases expired : Database.batchExpired row (storedInstant cutoff) <;>
        simp [Option.filter, expired]

/-- The ledger does not depend on how many programs may follow. -/
theorem Registered.mono (registered : Registered bound w) (below : bound ≤ larger) :
    Registered larger w :=
  { registered with
    ids := fun owned =>
      ⟨Nat.lt_of_lt_of_le (registered.ids owned).1 below, (registered.ids owned).2⟩
    facts := fun entry listed =>
      Nat.lt_of_lt_of_le (registered.facts entry listed) below
    transitions := fun entry listed =>
      Nat.lt_of_lt_of_le (registered.transitions entry listed) below
    handled := fun handles =>
      ⟨Nat.lt_of_lt_of_le (registered.handled handles).1 below, (registered.handled handles).2⟩ }

/-- A label that was not given out handles nothing. -/
theorem Registered.free (registered : Registered bound w) : w.Free bound := by
  cases handles : KeyedList.find bound w.handling with
  | none => exact handles
  | some d => exact absurd (registered.handled handles).1 (Nat.lt_irrefl bound)

/-- What is known of a program survives a change of the world that leaves the
history of its workflow alone. -/
theorem Role.Holds.of_same {role : Role} (holds : role.Holds other w)
    (handling : KeyedList.find other after.handling = KeyedList.find other w.handling)
    (ids : after.ids = w.ids) (produced : after.produced = w.produced)
    (rejected : after.rejected = w.rejected) (transitions : after.transitions = w.transitions)
    (chain : ∀ id, w.backend.chain id = none -> after.backend.chain id = none)
    (summary : ∀ id, w.backend.summary id = none -> after.backend.summary id = none)
    (returned : ∀ id, w.Owns other id -> id ∈ after.returned -> id ∈ w.returned) :
    role.Holds other after := by
  have unsent : ∀ {id}, w.Owns other id -> w.Unsent id -> after.Unsent id :=
    fun owned unsent =>
      ⟨produced ▸ unsent.produced, rejected ▸ unsent.rejected,
        fun listed => unsent.returned (returned _ owned listed)⟩
  refine holds.carried handling (fun owned => ?_) (fun _ _ => unsent) ?_
    (fun _ listed => rejected ▸ listed) returned
  · rw [World.Owns, ids]
    exact owned
  · intro id _ owned unused
    exact ⟨unsent owned unused.toUnsent, chain id unused.chain,
      summary id unused.batch, transitions ▸ unused.transitions⟩

section Finish

/-- What settling a program changes. -/
theorem World.finish_cases (settled : World.finish label result w = some after) :
    (∃ error d, result = .delivery error ∧ w.Handles label d ∧ after =
        { w with
          handling := KeyedList.erase label w.handling
          broker := if Delivery.keeps d error then d.message :: w.broker
            else w.broker }) ∨
    (∃ chainID error, result = .chain chainID error ∧
      after = { w with returned := chainID :: w.returned }) ∨
    (∃ batchID error, result = .batch batchID error ∧ after = w) := by
  cases result with
  | delivery error =>
    simp only [finish] at settled
    split at settled
    · cases settled
    · rename_i d handles
      cases settled
      exact .inl ⟨error, d, rfl, handles, rfl⟩
  | chain chainID error =>
    cases settled
    exact .inr (.inl ⟨chainID, error, rfl, rfl⟩)
  | batch batchID error =>
    cases settled
    exact .inr (.inr ⟨batchID, error, rfl, rfl⟩)

/-- A dispatch returns no identifier, or one that its program generated. -/
theorem ChainStop.owns (stops : ChainStop kind chainID phase) (holds : phase.role.Holds label w) :
    chainID = "" ∨ w.Owns label chainID := by
  cases phase <;> try exact stops.elim
  case idle => exact .inl stops
  case chainDispatch => exact .inl stops
  case chainMinted => exact .inl stops
  case chainStored =>
      rw [stops.1]
      exact .inr holds.2.1
  case chainRejected =>
      rw [stops.2]
      exact .inr holds.2.1
  case chainRefused =>
      cases stops
      exact .inr holds.2.1
  case chainDispatched =>
      cases stops
      exact .inr holds.2.1

/-- Settling a program keeps the ledger. -/
theorem ledger_finished (registered : Registered bound w) (holds : phase.role.Holds label w)
    (stops : EngineStop kind phase result) (settled : World.finish label result w = some after) :
    Registered bound after ∧ ledger.Frame bound (· = label) w after := by
  rcases World.finish_cases settled with
    ⟨error, d, _, handles, rfl⟩ | ⟨chainID, error, rfl, rfl⟩ |
    ⟨batchID, error, _, rfl⟩
  · have remaining : ∀ {other e},
        KeyedList.find other (KeyedList.erase label w.handling) = some e -> w.Handles other e := by
      intro other e found
      by_cases same : other = label
      · subst same
        rw [KeyedList.find_erase_self] at found
        cases found
      · rw [KeyedList.find_erase_of_ne same] at found
        exact found
    constructor
    · refine { registered with handled := ?_, queued := ?_, generations := ?_ }
      · intro other e found
        exact registered.handled (remaining found)
      · intro message listed
        dsimp only at listed
        split at listed
        · rcases List.mem_cons.mp listed with rfl | listed
          · exact (registered.handled handles).2.1
          · exact registered.queued message listed
        · exact registered.queued message listed
      · intro first second e f foundFirst foundSecond
        exact registered.generations (remaining foundFirst) (remaining foundSecond)
    · intro other role _ different known
      exact Role.Holds.of_same known (KeyedList.find_erase_of_ne different) rfl rfl rfl rfl
        (fun _ absent => absent) (fun _ absent => absent) fun _ _ listed => listed
  · have owned := ChainStop.owns stops holds
    constructor
    · refine { registered with returned := ?_ }
      intro id listed
      rcases List.mem_cons.mp listed with rfl | listed
      · exact owned.imp (fun empty => empty) fun owned => ⟨label, owned⟩
      · exact registered.returned id listed
    · intro other role _ different known
      refine Role.Holds.of_same known rfl rfl rfl rfl rfl
        (fun _ absent => absent) (fun _ absent => absent) ?_
      intro id otherOwns listed
      rcases List.mem_cons.mp listed with rfl | listed
      · rcases owned with empty | owned
        · exact absurd empty (registered.ids otherOwns).2
        · exact absurd (otherOwns.unique owned) different
      · exact listed
  · exact ⟨registered, fun _ _ _ _ known => known⟩

end Finish

section External

variable {w after : World}

/-- Moves of the environment that start no program. -/
theorem external_idle (moved : Broker.external r bound w move = some (after, none)) :
    (∃ index message, move = .duplicate index ∧ message ∈ w.produced ∧
      after = { w with broker := message :: w.broker }) ∨
    (∃ cutoff, move = .prune cutoff ∧ after = { w with backend := w.backend.prune cutoff }) ∨
    (∃ duration, move = .tick duration ∧ after = { w with clock := w.clock + duration }) := by
  cases move with
  | dispatchChain builder context => cases moved
  | dispatchBatch builder context => cases moved
  | deliver index context =>
    obtain ⟨_, _, impossible⟩ := Option.map_eq_some_iff.mp moved
    cases impossible
  | duplicate index =>
    obtain ⟨message, found, same⟩ := Option.map_eq_some_iff.mp moved
    cases same
    exact .inl ⟨index, message, rfl, List.mem_of_getElem? found, rfl⟩
  | prune cutoff =>
    cases moved
    exact .inr (.inl ⟨cutoff, rfl, rfl⟩)
  | tick duration =>
    cases moved
    exact .inr (.inr ⟨duration, rfl, rfl⟩)

/-- The world after a message was handed to a worker. -/
def World.handOver (w : World) (label index : Nat) (d : Delivery) : World :=
  { w with
    broker := w.broker.eraseIdx index
    handling := (label, d) :: w.handling
    generations := d.context.generationID :: w.generations }

/-- Moves of the environment that start a program. -/
theorem external_started (moved : Broker.external r bound w move = some (after, some program)) :
    ((∃ builder context, move = .dispatchChain builder context) ∧ after = w) ∨
    ((∃ builder context, move = .dispatchBatch builder context) ∧ after = w) ∨
    (∃ index d, move = .deliver index d.context ∧ w.broker[index]? = some d.message ∧
      (d.context.generationID ≠ "" -> d.context.generationID ∉ w.generations) ∧
      after = w.handOver bound index d) := by
  cases move with
  | dispatchChain builder context =>
    cases moved
    exact .inl ⟨⟨builder, context, rfl⟩, rfl⟩
  | dispatchBatch builder context =>
    cases moved
    exact .inr (.inl ⟨⟨builder, context, rfl⟩, rfl⟩)
  | deliver index context =>
    obtain ⟨⟨world, d⟩, delivered, same⟩ := Option.map_eq_some_iff.mp moved
    cases same
    unfold Broker.deliver at delivered
    split at delivered
    · cases delivered
    rename_i message found
    split at delivered
    · cases delivered
    rename_i unused
    cases delivered
    refine .inr (.inr ⟨index, { message := message, context := context }, rfl, found, ?_, rfl⟩)
    intro named listed
    exact unused ⟨named, listed⟩
  | duplicate index =>
    obtain ⟨_, _, impossible⟩ := Option.map_eq_some_iff.mp moved
    cases impossible
  | prune cutoff => cases moved
  | tick duration => cases moved

/-- What a step other than an operation leaves alone: the messages, the handlers
and every chain that it does not prune. -/
structure World.Aside (before after : World) : Prop where
  produced : after.produced = before.produced
  starts : after.starts = before.starts
  chain : ∀ id, after.backend.chain id = before.backend.chain id ∨ after.backend.chain id = none

theorem World.Aside.finish
    (settled : World.finish label result w = some after) : w.Aside after := by
  rcases World.finish_cases settled with
    ⟨_, _, _, _, rfl⟩ | ⟨_, _, _, rfl⟩ | ⟨_, _, _, rfl⟩ <;>
    exact ⟨rfl, rfl, fun _ => .inl rfl⟩

theorem World.Aside.external (moved : Broker.external r bound w move = some (after, started)) :
    w.Aside after := by
  cases started with
  | none =>
    rcases external_idle moved with ⟨_, _, _, _, rfl⟩ | ⟨cutoff, _, rfl⟩ | ⟨_, _, rfl⟩
    · exact ⟨rfl, rfl, fun _ => .inl rfl⟩
    · exact ⟨rfl, rfl, w.backend.prune_chain cutoff⟩
    · exact ⟨rfl, rfl, fun _ => .inl rfl⟩
  | some program =>
    rcases external_started moved with
      ⟨_, rfl⟩ | ⟨_, rfl⟩ | ⟨_, _, _, _, _, rfl⟩ <;>
      exact ⟨rfl, rfl, fun _ => .inl rfl⟩

/-- The phases in which programs over the memory store start. -/
theorem EngineEntry.memory_cases (entered : EngineEntry .memory label w move phase) :
    phase = .chainDispatch ∨ phase = .batchDispatch ∨ phase = .direct ∨ phase = .idle ∨
      (∃ d, phase = .node d none) ∨ ∃ d, phase = .member d false := by
  unfold EngineEntry at entered
  split at entered
  · exact .inl entered
  · exact .inr (.inl entered)
  · obtain ⟨d, _, rfl⟩ := entered
    cases kind : d.message.kind <;> simp [deliveryPhase, kind]
  · exact entered.elim

theorem handOver_handles_iff :
    (w.handOver label index d).Handles other e ↔
      (other = label ∧ e = d) ∨ (other ≠ label ∧ w.Handles other e) := by
  unfold World.Handles World.handOver
  rw [KeyedList.find]
  split
  · rename_i same
    subst same
    simp [eq_comm]
  · rename_i different
    have different : other ≠ label := fun same => different same.symm
    simp [different]

/-- Handing over a message keeps the ledger. -/
theorem Registered.handOver (registered : Registered bound w)
    (found : w.broker[index]? = some d.message)
    (unused : d.context.generationID ≠ "" -> d.context.generationID ∉ w.generations) :
    Registered (bound + 1) (w.handOver bound index d) := by
  refine { registered.mono (Nat.le_succ bound) with handled := ?_, queued := ?_, generations := ?_ }
  · intro other e handles
    rcases handOver_handles_iff.mp handles with ⟨rfl, rfl⟩ | ⟨_, handles⟩
    · exact ⟨Nat.lt_succ_self _, registered.queued _ (List.mem_of_getElem? found),
        List.mem_cons_self⟩
    · obtain ⟨below, produced, generation⟩ := registered.handled handles
      exact ⟨Nat.lt_succ_of_lt below, produced, List.mem_cons_of_mem _ generation⟩
  · intro message listed
    exact registered.queued message (List.mem_of_mem_eraseIdx listed)
  · intro first second e f handlesFirst handlesSecond different named
    rcases handOver_handles_iff.mp handlesFirst with ⟨rfl, rfl⟩ | ⟨_, earlierFirst⟩ <;>
    rcases handOver_handles_iff.mp handlesSecond with ⟨rfl, rfl⟩ | ⟨_, earlierSecond⟩
    · exact absurd rfl different
    · intro same
      exact unused named (same ▸ (registered.handled earlierSecond).2.2)
    · intro same
      exact unused (same ▸ named) (same ▸ (registered.handled earlierFirst).2.2)
    · exact registered.generations earlierFirst earlierSecond different named

theorem ledger_idle (registered : Registered bound w)
    (moved : Broker.external r bound w move = some (after, none)) :
    Registered bound after ∧ ledger.Frame bound (fun _ => False) w after := by
  rcases external_idle moved with
    ⟨index, message, _, produced, rfl⟩ | ⟨cutoff, _, rfl⟩ | ⟨_, _, rfl⟩
  · refine ⟨{ registered with queued := ?_ }, ?_⟩
    · intro other listed
      rcases List.mem_cons.mp listed with rfl | listed
      · exact produced
      · exact registered.queued other listed
    · intro other role _ _ known
      exact Role.Holds.of_same known rfl rfl rfl rfl rfl (fun _ absent => absent)
        (fun _ absent => absent) fun _ _ listed => listed
  · refine ⟨{ registered with chains := ?_, batches := ?_ }, ?_⟩
    · intro id stored
      rcases Backend.prune_chain w.backend cutoff id with same | gone
      · exact registered.chains (same ▸ stored)
      · exact absurd gone stored
    · intro id stored
      rcases Backend.prune_summary w.backend cutoff id with same | gone
      · exact registered.batches (same ▸ stored)
      · exact absurd gone stored
    · intro other role _ _ known
      refine Role.Holds.of_same known rfl rfl rfl rfl rfl ?_ ?_ fun _ _ listed => listed
      · intro id absent
        rcases Backend.prune_chain w.backend cutoff id with same | gone
        · exact same.trans absent
        · exact gone
      · intro id absent
        rcases Backend.prune_summary w.backend cutoff id with same | gone
        · exact same.trans absent
        · exact gone
  · refine ⟨{ registered with }, ?_⟩
    intro other role _ _ known
    exact Role.Holds.of_same known rfl rfl rfl rfl rfl (fun _ absent => absent)
      (fun _ absent => absent) fun _ _ listed => listed

theorem deliveryPhase_holds (handles : w.Handles label d) :
    (deliveryPhase kind d).role.Holds label w := by
  have plain : d.message.workflow = none ->
      ∀ e, w.Handles label e -> e.message.workflow = none := by
    intro unmentioned e also
    have same : d = e := Option.some.inj (handles.symm.trans also)
    rw [← same]
    exact unmentioned
  unfold deliveryPhase
  split
  · rename_i direct
    exact plain (by simp [Message.workflow, direct])
  · rename_i node
    exact ⟨handles, node⟩
  · rename_i node
    exact ⟨handles, node⟩
  · rename_i member
    exact ⟨handles, member⟩
  · rename_i callback
    exact plain (by simp [Message.workflow, callback])

theorem ledger_started (registered : Registered bound w)
    (moved : Broker.external r bound w move = some (after, some program))
    (entered : EngineEntry kind bound after move phase) :
    Registered (bound + 1) after ∧ phase.role.Holds bound after ∧
      ledger.Frame bound (fun _ => False) w after := by
  rcases external_started moved with
    ⟨⟨_, _, rfl⟩, rfl⟩ | ⟨⟨_, _, rfl⟩, rfl⟩ | ⟨index, d, rfl, found, unused, rfl⟩
  · cases entered
    exact ⟨registered.mono (Nat.le_succ bound), registered.free, fun _ _ _ _ known => known⟩
  · cases entered
    exact ⟨registered.mono (Nat.le_succ bound), registered.free, fun _ _ _ _ known => known⟩
  · obtain ⟨e, handles, rfl⟩ := entered
    refine ⟨registered.handOver found unused, deliveryPhase_holds handles, ?_⟩
    intro other role below _ known
    refine Role.Holds.of_same known ?_ rfl rfl rfl rfl (fun _ absent => absent)
      (fun _ absent => absent) fun _ _ listed => listed
    have different : bound ≠ other := by omega
    simp [World.handOver, KeyedList.find, different]

end External

/-! ## The ledger is kept -/

/-- Nothing is registered in a world in which nothing has happened. -/
theorem registered_initial : Registered 0 (World.initial kind) := by
  have chains : ∀ id, (World.initial kind).backend.chain id = none := by
    intro id
    cases kind <;> rfl
  have batches : ∀ id, (World.initial kind).backend.summary id = none := by
    intro id
    cases kind <;> rfl
  constructor <;> simp [World.Owns, World.Handles, World.initial, KeyedList.find] <;>
    intro id stored
  · exact absurd (chains id) stored
  · exact absurd (batches id) stored

/-- Every step of the machine keeps the ledger. -/
theorem ledger_kept :
    ledger.Kept (Broker.machine kind callbacksDisabled) .always (engineProtocol kind) where
  operation := by
    intro bound label phase next before world operation answer choice bounded
      registered holds moved executed _
    have creates : ∀ id, operation.createsChain = some id ∨
        operation.createsBatch = some id -> before.Owns label id := by
      intro id created
      exact Role.Holds.owns holds (by rw [EngineMoves.creates moved created]; rfl)
    have posts : ∀ kind env id, operation = .busDispatch kind env ->
        Message.workflow { kind := kind, env := env } = some id -> before.Speaks label id := by
      rintro kind env id rfl about
      exact EngineMoves.posts moved registered holds about
    have handles : ∀ env, operation = .handle env ->
        (before.starting label env).kind.ofWorkflow = true -> ∃ d, before.Handles label d ∧
        env = d.executed := by
      rintro env rfl stored
      exact EngineMoves.handles moved holds stored
    refine ⟨registered.exec executed bounded creates posts handles,
      EngineMoves.role_holds moved registered holds executed, ?_⟩
    intro other role _ different known
    refine Role.Holds.exec executed known ?_ ?_
    · intro id guarded
      have owned := known.owns guarded
      exact ⟨fun created => different (owned.unique (creates id (.inl created))),
        fun created => different (owned.unique (creates id (.inr created)))⟩
    · intro kind env id sent about guarded
      rcases posts kind env id sent about with own | produced
      · exact absurd ((known.owns guarded).unique own) different
      · exact produced
  blocked := by
    intro bound label before world operation choice _ _ executed
    exact absurd executed World.exec_answered
  finished := fun _ registered holds stops settled =>
    ledger_finished registered holds stops settled
  idle := fun registered moved _ => ledger_idle registered moved
  started := fun registered moved _ entered =>
    ledger_started registered moved entered

end JobQueue.Workflow
