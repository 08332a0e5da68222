import JobQueue.Interleaving.Progress
import JobQueue.Runtime.Ownership

/-!
# Shutdown is safe and final

A shutdown attempt waits for the leased operations, drains the worker, waits
for the operations that handlers have leased meanwhile and then closes the
producer. Once every backend that could deliver is drained and its permits
have expired, no operation is admitted any more: the second wait ends with a
runtime that nobody uses.
-/

namespace JobQueue.Lifecycle

open Interleaving

/-- Every backend that has handlers, was activated or is held by the runtime
has been drained. -/
def Quiet (world : World) : Prop :=
  ∀ worker, world.backends worker ≠ [] ∨ worker ∈ world.activated ∨
      world.state.worker = some worker -> worker ∈ world.drained

/-- What holds of the backends in every run in which permits expire. -/
structure Drains (kind : Kind) (world : World) : Prop where
  /-- A backend in use is drained or still held. -/
  known : ∀ worker, world.backends worker ≠ [] ∨ worker ∈ world.activated ->
      worker ∈ world.drained ∨ world.state.worker = some worker
  /-- Permits are active only while some backend is not drained. -/
  permitted : (∀ worker, world.backends worker ≠ [] -> worker ∈ world.drained) -> world.permits = []
  native : kind = .native -> world.state.worker = some nativeBackend
  closed : world.state.closed = true -> world.leases = []

/-- No operation is leased, or the channel is the one that the last leased
operation will close. -/
def Settling (idle : Nat) (world : World) : Prop :=
  world.leases = [] ∨ world.state.operations.idle = some idle

/-- What a call knows of the worker and of the drain. -/
def Knows (world : World) : Phase -> Prop
  | .obtaining worker => world.state.worker = worker
  | .obtained _ => world.state.worker = none
  | .activating worker => world.state.worker = some worker
  | .shutting (.opened worker) => world.state.worker = worker
  | .shutting .drained => Quiet world
  | .shutting .detached => Quiet world
  | .shutting (.settling idle) => Quiet world ∧ Settling idle world
  | .shutting .closing => Quiet world ∧ world.leases = []
  | _ => True

/-- A change that leaves alone what other calls know. -/
structure Undisturbed (label : Nat) (before after : World) : Prop where
  start : ∀ other, other ≠ label -> before.state.start = some other ->
    after.state.worker = before.state.worker
  shutdown : ∀ other, other ≠ label -> before.state.shutdown = some other ->
    after.state.worker = before.state.worker ∧
    (Quiet before -> Quiet after ∧ (before.leases = [] -> after.leases = []) ∧ ∀ idle,
    Settling idle before -> Settling idle after)

theorem Undisturbed.refl (world : World) : Undisturbed label world world where
  start := fun _ _ _ => rfl
  shutdown := fun _ _ _ => ⟨rfl, fun quiet => ⟨quiet, id, fun _ => id⟩⟩

variable {kind : Kind} {before : World}

/-- A backend in use is drained or still held. -/
theorem Drains.of_used (drains : Drains kind world)
    (used : world.backends worker ≠ [] ∨ worker ∈ world.activated ∨
      world.state.worker = some worker) :
    worker ∈ world.drained ∨ world.state.worker = some worker := by
  rcases used with equipped | activated | current
  · exact drains.known worker (.inl equipped)
  · exact drains.known worker (.inr activated)
  · exact .inr current

/-- A runtime that holds no worker is quiet. -/
theorem Drains.quiet (drains : Drains kind world) (unheld : world.state.worker = none) :
    Quiet world := by
  intro worker used
  rcases drains.of_used used with drained | current
  · exact drained
  · exact absurd (unheld.symm.trans current) (by simp)

/-- A change that keeps the worker, the leases and a finished drain. -/
theorem Undisturbed.of_same (worker : world.state.worker = before.state.worker)
    (leases : world.leases = before.leases)
    (idle : world.state.operations.idle = before.state.operations.idle)
    (quiet : before.state.shutdown ≠ none -> Quiet before -> Quiet world) :
    Undisturbed label before world where
  start := fun _ _ _ => worker
  shutdown := by
    intro other _ shutting
    refine ⟨worker, fun known => ⟨quiet (by simp [shutting]) known, ?_, ?_⟩⟩
    · rw [leases]
      exact id
    · intro channel settling
      rw [Settling, leases, idle]
      exact settling

/-- What a call knows it still knows after an undisturbing change. -/
theorem Knows.of_undisturbed
    (undisturbed : Undisturbed label before world) (different : other ≠ label)
    (owned : Owned other phase before.gate) (knows : Knows before phase) : Knows world phase := by
  cases phase with
  | obtaining worker => exact (undisturbed.start other different (owned.start.mpr rfl)).trans knows
  | obtained worker => exact (undisturbed.start other different (owned.start.mpr rfl)).trans knows
  | activating worker => exact (undisturbed.start other different (owned.start.mpr rfl)).trans knows
  | shutting stage =>
    obtain ⟨worker, rest⟩ := undisturbed.shutdown other different (owned.shutdown.mpr rfl)
    cases stage with
    | opened found => exact worker.trans knows
    | drained => exact (rest knows).1
    | detached => exact (rest knows).1
    | settling idle =>
      obtain ⟨quiet, _, settling⟩ := rest knows.1
      exact ⟨quiet, settling idle knows.2⟩
    | closing =>
      obtain ⟨quiet, free, _⟩ := rest knows.1
      exact ⟨quiet, free knows.2⟩
    | failed => trivial
  | _ => trivial

/-- The call that starts disturbs nobody. -/
theorem Undisturbed.of_start (ordered : Ordered bound before.gate)
    (starting : before.state.start = some label) :
    Undisturbed label before world where
  start := by
    intro other different same
    exact absurd (Option.some.inj (same.symm.trans starting)) different
  shutdown := by
    intro other _ shutting
    obtain ⟨_, unstarted, _⟩ :=
      ordered.exclusive (Option.isSome_iff_ne_none.mp (by
        rw [World.gate, shutting]
        rfl))
    exact absurd (starting.symm.trans unstarted) (by simp)

/-- The call that shuts down disturbs nobody. -/
theorem Undisturbed.of_shutdown (ordered : Ordered bound before.gate)
    (shutting : before.state.shutdown = some label) :
    Undisturbed label before world where
  start := by
    intro other _ starting
    obtain ⟨_, unstarted, _⟩ :=
      ordered.exclusive (Option.isSome_iff_ne_none.mp (by
        rw [World.gate, shutting]
        rfl))
    exact absurd (starting.symm.trans unstarted) (by simp)
  shutdown := by
    intro other different same
    exact absurd (Option.some.inj (same.symm.trans shutting)) different

/-- What one operation must show. -/
structure Advances (kind : Kind) (label : Nat) (next : Phase) (before after : World) : Prop where
  drains : Drains kind after
  knows : Knows after next
  undisturbed : Undisturbed label before after

theorem Advances.stay (drains : Drains kind before) (knows : Knows before next) :
    Advances kind label next before before :=
  ⟨drains, knows, .refl before⟩

/-! ## Leases -/

theorem Quiet.permits (drains : Drains kind before) (quiet : Quiet before) : before.permits = [] :=
  drains.permitted fun worker equipped => quiet worker (.inl equipped)

theorem advances_acquireOperation
    (ordered : Ordered bound before.gate) (drains : Drains kind before)
    (executed : exec label before (.acquireOperation ctx allowContinuation)
      choice = some (some refused, world)) :
    Advances kind label (if refused.isNone then .holding else .free) before world := by
  simp only [exec] at executed
  cases decision : before.refuses ctx allowContinuation with
  | true =>
    rw [World.acquireOperation_refused before label decision,
      World.continuationScopeLocked_eq] at executed
    cases executed
    exact ⟨⟨drains.known, drains.permitted, drains.native, drains.closed⟩,
      trivial, .of_same rfl rfl rfl fun _ => id⟩
  | false =>
    rw [World.acquireOperation_admitted before label decision,
      World.continuationScopeLocked_eq] at executed
    cases executed
    have unclosed : before.state.closed = false := by
      simp only [World.refuses, Bool.or_eq_false_iff] at decision
      exact decision.1
    refine ⟨⟨drains.known, drains.permitted, drains.native, ?_⟩, trivial, ⟨fun _ _ _ => rfl, ?_⟩⟩
    · intro closed
      exact absurd (unclosed.symm.trans closed) (by simp)
    · intro other _ shutting
      obtain ⟨draining, _⟩ :=
        ordered.exclusive (Option.isSome_iff_ne_none.mp (by
          rw [World.gate, shutting]
          rfl))
      refine ⟨rfl, fun quiet => ?_⟩
      have drained : before.state.draining = true := draining
      simp [World.refuses, drained, owns, quiet.permits drains] at decision

theorem advances_releaseOperation
    (changes : before.gate.Changes bound label .free (before.releaseOperation label).gate)
    (drains : Drains kind before) :
    Advances kind label .free before (before.releaseOperation label) := by
  refine ⟨⟨drains.known, drains.permitted, drains.native, ?_⟩, trivial, ⟨fun _ _ _ => rfl, ?_⟩⟩
  · intro closed
    simp [World.releaseOperation, drains.closed closed]
  · intro other _ _
    refine ⟨rfl, fun quiet => ⟨quiet, ?_, ?_⟩⟩
    · intro free
      simp [World.releaseOperation, free]
    · rintro idle (free | same)
      · exact .inl (by simp [World.releaseOperation, free])
      have released : before.state.operations.released.idle = none ∨
          before.state.operations.released.idle = before.state.operations.idle := by
        unfold OperationState.released
        split
        · exact .inl rfl
        · exact .inr rfl
      rcases released with ended | kept
      · exact .inl (List.length_eq_zero_iff.mp (changes.ordered.counts.idle.mp ended))
      · exact .inr (kept.trans same)

/-! ## Installing handlers -/

/-- A change that may hand handlers to one backend and touches nothing else of
what a drain depends on. -/
structure Equips (worker : Worker) (before after : World) : Prop where
  others : ∀ other, other ≠ worker -> after.backends other = before.backends other
  grows : before.backends worker ≠ [] -> after.backends worker ≠ []
  worker : after.state.worker = before.state.worker
  closed : after.state.closed = before.state.closed
  operations : after.state.operations = before.state.operations
  leases : after.leases = before.leases
  permits : after.permits = before.permits
  activated : after.activated = before.activated
  drained : after.drained = before.drained

theorem Equips.refl (worker : Worker) : Equips worker world world :=
  ⟨fun _ _ => rfl, id, rfl, rfl, rfl, rfl, rfl, rfl, rfl⟩

theorem Equips.trans {worker : Worker} (earlier : Equips worker first second)
    (later : Equips worker second third) : Equips worker first third where
  others := fun other different =>
    (later.others other different).trans (earlier.others other different)
  grows := fun equipped => later.grows (earlier.grows equipped)
  worker := later.worker.trans earlier.worker
  closed := later.closed.trans earlier.closed
  operations := later.operations.trans earlier.operations
  leases := later.leases.trans earlier.leases
  permits := later.permits.trans earlier.permits
  activated := later.activated.trans earlier.activated
  drained := later.drained.trans earlier.drained

theorem equips_installOn (entry : String × Handler) :
    Equips worker world (world.installOn worker entry slot) where
  others := fun other different => by simp [World.installOn, different]
  grows := fun equipped => by
    simp only [World.installOn, installRuntimeHandler, Function.update_self]
    split_ifs <;> simp [equipped]
  worker := rfl
  closed := rfl
  operations := rfl
  leases := rfl
  permits := rfl
  activated := rfl
  drained := rfl

/-- Updating a slot hands nothing to a backend. -/
theorem equips_updateSlot (entry : String × Handler) :
    Equips worker world (world.updateSlot entry).2 :=
  ⟨fun _ _ => rfl, id, rfl, rfl, rfl, rfl, rfl, rfl, rfl⟩

theorem equips_catchUp (worker : Worker) (order : List (String × Handler)) (world : World) :
    Equips worker world (world.catchUp worker order) := by
  induction order generalizing world with
  | nil => exact .refl worker
  | cons entry rest ih =>
    exact ((equips_updateSlot entry).trans (equips_installOn entry)).trans (ih _)

/-- A backend that the runtime holds may be handed handlers. -/
theorem Equips.drains {worker : Worker} (equips : Equips worker before world)
    (held : before.state.worker = some worker)
    (drains : Drains kind before) : Drains kind world where
  known := by
    intro other used
    rw [equips.drained, equips.worker, held]
    by_cases same : other = worker
    · exact .inr (by rw [same])
    · rw [equips.others other same, equips.activated] at used
      rw [← held]
      exact drains.known other used
  permitted := by
    intro drained
    rw [equips.permits]
    refine drains.permitted fun other equipped => ?_
    rw [← equips.drained]
    apply drained
    by_cases same : other = worker
    · subst same
      exact equips.grows equipped
    · rw [equips.others other same]
      exact equipped
  native := fun native => equips.worker.trans (drains.native native)
  closed := by
    rw [equips.closed, equips.leases]
    exact drains.closed

/-- What `Register` does to the backends. -/
theorem equips_register (jobType : String) (handler : Handler) (world : World) :
    (∃ worker, world.state.worker = some worker ∧ world.state.draining = false ∧
      Equips worker world (world.register jobType handler)) ∨
    ((world.register jobType handler).backends = world.backends ∧
      ∀ worker, Equips worker world (world.register jobType handler)) := by
  have recorded (worker : Worker) : Equips worker world (world.recordHandler (jobType, handler)) :=
    ⟨fun _ _ => rfl, id, rfl, rfl, rfl, rfl, rfl, rfl, rfl⟩
  have updated (worker : Worker) := (recorded worker).trans (equips_updateSlot (jobType, handler))
  unfold World.register
  dsimp only
  split
  · rename_i worker held
    split
    · rename_i active
      simp only [Bool.and_eq_true, Bool.not_eq_true'] at active
      exact .inl ⟨worker, held, active.1, (updated worker).trans (equips_installOn _)⟩
    · exact .inr ⟨rfl, updated⟩
  · exact .inr ⟨rfl, updated⟩

theorem advances_register (ordered : Ordered bound before.gate) (drains : Drains kind before) :
    Advances kind label .free before (before.register jobType handler) := by
  rcases equips_register jobType handler before with
    ⟨worker, held, running, equips⟩ | ⟨backends, equips⟩
  · refine ⟨equips.drains held drains, trivial,
      .of_same equips.worker equips.leases (by rw [equips.operations]) ?_⟩
    intro shutting
    -- While a shutdown is in progress nothing is installed.
    exact absurd (running.symm.trans (ordered.exclusive shutting).1) (by simp)
  · have same := equips nativeBackend
    refine ⟨⟨?_, ?_, ?_, ?_⟩, trivial,
      .of_same same.worker same.leases (by rw [same.operations]) ?_⟩
    · rw [backends, same.activated, same.drained, same.worker]
      exact drains.known
    · rw [backends, same.drained, same.permits]
      exact drains.permitted
    · rw [same.worker]
      exact drains.native
    · rw [same.closed, same.leases]
      exact drains.closed
    · intro _ quiet worker
      rw [backends, same.activated, same.drained, same.worker]
      exact quiet worker

/-! ## Starting -/

theorem advances_beganNative (ordered : Ordered bound before.gate) (drains : Drains .native before)
    (executed : exec label before (.enterStart .native) choice =
      some (some (.began worker workers), world)) :
    Advances .native label (.activating nativeBackend) before world := by
  rcases of_enterStart executed with ⟨_, other⟩ | ⟨_, _, running, _, unstarted, after⟩
  · exact absurd rfl (other _ _)
  rcases after with ⟨_, order, _, rfl⟩ | ⟨external, _⟩
  · have equips := equips_catchUp nativeBackend order
      { before with
        state := { before.state with start := some label }
        starting := label :: before.starting }
    have held := drains.native rfl
    refine ⟨equips.drains held ⟨drains.known, drains.permitted, drains.native,
      drains.closed⟩, equips.worker.trans held, ⟨?_, ?_⟩⟩
    · intro other _ starting
      exact absurd (unstarted.symm.trans starting) (by simp)
    · intro other _ shutting
      obtain ⟨draining, _⟩ := ordered.exclusive (show
        before.gate.shutdown ≠ none by simp [World.gate, shutting])
      exact absurd (running.symm.trans draining) (by simp)
  · cases external

theorem advances_beganExternal (drains : Drains .external before)
    (executed : exec label before (.enterStart .external) choice =
      some (some (.began worker workers), world)) :
    Advances .external label (.obtaining worker) before world := by
  rcases of_enterStart executed with ⟨_, other⟩ | ⟨began, _, _, _, _, after⟩
  · exact absurd rfl (other _ _)
  rcases after with ⟨native, _⟩ | ⟨_, rfl⟩
  · cases native
  · cases began
    exact ⟨⟨drains.known, drains.permitted, drains.native, drains.closed⟩,
      rfl, .of_same rfl rfl rfl fun _ => id⟩

section Starting

variable (ordered : Ordered bound before.gate) (starting : before.state.start = some label)
include ordered starting

theorem advances_publishWorker (drains : Drains .external before)
    (held : before.state.worker = none ∨ before.state.worker = some worker)
    (executed : exec label before (.publishWorker worker) choice = some (some (), world)) :
    Advances .external label (.activating worker) before world := by
  obtain ⟨order, _, rfl⟩ := of_publishWorker executed
  have equips := equips_catchUp worker order
    { before with state := { before.state with worker := some worker } }
  refine ⟨equips.drains rfl ⟨?_, drains.permitted, by simp, drains.closed⟩,
    equips.worker, .of_start ordered starting⟩
  intro other used
  rcases drains.known other used with drained | current
  · exact .inl drained
  · rcases held with unheld | same
    · exact absurd (current.symm.trans unheld) (by simp)
    · exact .inr (same.symm.trans current)

theorem advances_startWorkers
    (drains : Drains kind before) (held : before.state.worker = some worker)
    (executed : exec label before (.startWorkers worker) choice = some (some (), world)) :
    Advances kind label (.activating worker) before world := by
  cases executed
  refine ⟨⟨?_, ?_, drains.native, drains.closed⟩, held, .of_start ordered starting⟩
  · intro other used
    by_cases same : other = worker
    · exact .inr (same ▸ held)
    · have earlier : before.backends other ≠ [] ∨ other ∈ before.activated := by
        simpa [same] using used
      refine (drains.known other earlier).imp_left fun drained => ?_
      simpa [same] using drained
  · intro drained
    exact drains.permitted fun other equipped =>
      (List.mem_filter.mp (drained other equipped)).1

theorem advances_leaveStart {set : Option Worker} (drains : Drains kind before)
    (held : set = none ∨ set = before.state.worker) :
    Advances kind label .finished before (before.leaveStart label set err) := by
  have same : set.or before.state.worker = before.state.worker := by
    rcases held with rfl | rfl
    · rfl
    · exact Option.or_self
  refine ⟨⟨?_, drains.permitted, ?_, drains.closed⟩, trivial, .of_start ordered starting⟩
  · intro other used
    simp only [World.leaveStart, same]
    exact drains.known other used
  · intro native
    simp only [World.leaveStart, same]
    exact drains.native native

end Starting

/-! ## Shutting down -/

theorem advances_enterShutdown (drains : Drains kind before)
    (executed : exec label before .enterShutdown choice = some (some entry, world)) :
    Drains kind world ∧ Undisturbed label before world ∧
      ∀ worker idle, entry = .began worker idle -> world.state.worker = worker := by
  rcases World.enterShutdown_cases before label (of_enterShutdown executed) with
    ⟨_, _, rfl, rfl⟩ | ⟨_, _, _, rfl, rfl⟩ | ⟨_, _, rfl, rfl⟩ | ⟨_, _, _, rfl, rfl⟩
  all_goals
    refine ⟨⟨drains.known, drains.permitted, drains.native, drains.closed⟩,
      .of_same rfl rfl rfl fun _ => id, ?_⟩
    intro worker idle same
    cases same
  rfl

/-- What the second look at the operations finds. -/
theorem advances_snapshotIdle (ordered : Ordered bound before.gate) (drains : Drains kind before)
    (quiet : Quiet before)
    (executed : exec label before .snapshotIdle choice = some (some idle, world)) :
    Advances kind label (.shutting (match idle with
        | none => .closing
        | some channel => .settling channel)) before world := by
  obtain ⟨rfl, current⟩ := of_snapshotIdle executed
  refine .stay drains ?_
  cases idle with
  | none => exact ⟨quiet, List.length_eq_zero_iff.mp (ordered.counts.idle.mp current)⟩
  | some channel => exact ⟨quiet, .inr current⟩

section Shutting

variable (ordered : Ordered bound before.gate) (shutting : before.state.shutdown = some label)
include ordered shutting

/-- The drain of the last worker leaves the runtime quiet. -/
theorem advances_drained (drains : Drains kind before) (held : before.state.worker = some worker)
    (expired : before.permits = []) :
    Advances kind label (.shutting .drained) before
      { before with drained := worker :: before.drained } := by
  refine ⟨⟨?_, fun _ => expired, drains.native, drains.closed⟩, ?_, .of_shutdown ordered shutting⟩
  · intro other used
    exact (drains.known other used).imp_left (List.mem_cons_of_mem _)
  · intro other used
    rcases drains.of_used used with drained | current
    · exact List.mem_cons_of_mem _ drained
    · rw [held] at current
      cases current
      exact List.mem_cons_self

theorem advances_forgetWorker (drains : Drains .external before) (quiet : Quiet before) :
    Advances .external label (.shutting .detached) before before.forgetWorker := by
  refine ⟨⟨?_, drains.permitted, by simp, drains.closed⟩, ?_, .of_shutdown ordered shutting⟩
  · rintro other (equipped | activated)
    · exact .inl (quiet other (.inl equipped))
    · exact .inl (quiet other (.inr (.inl activated)))
  · rintro other (equipped | activated | current)
    · exact quiet other (.inl equipped)
    · exact quiet other (.inr (.inl activated))
    · cases current

theorem advances_leaveShutdown
    (drains : Drains kind before) (free : err = none -> before.leases = []) :
    Advances kind label .finished before (before.leaveShutdown kind label err) := by
  cases err with
  | none =>
    exact ⟨⟨drains.known, drains.permitted, drains.native,
      fun _ => free rfl⟩, trivial, .of_shutdown ordered shutting⟩
  | some err =>
    exact ⟨⟨drains.known, drains.permitted, drains.native,
      drains.closed⟩, trivial, .of_shutdown ordered shutting⟩

end Shutting

/-! ## Every run -/

/-- What a call asks for keeps what is known of the drain. -/
theorem advances_of_move {answer : operation.Answer} (bounded : label < bound)
    (ordered : Ordered bound before.gate) (owned : Owned label phase before.gate)
    (drains : Drains kind before) (knows : Knows before phase)
    (moved : CallMoves kind phase operation answer next)
    (executed : exec label before operation choice = some (some answer, world))
    (allowed : permitsExpire.operation label before operation answer world) :
    Advances kind label next before world := by
  cases moved with
  | refused | admitted => exact advances_acquireOperation ordered drains executed
  | operate | startReturned | producerClosed =>
    have same := of_answer executed
    rw [ite_self] at same
    subst same
    exact .stay drains knows
  | producerFailed =>
    have same := of_answer executed
    subst same
    exact .stay drains trivial
  | release =>
    have moved : CallMoves kind .holding .releaseOperation () .free := .release
    have changes := changes_of_move bounded ordered owned moved executed
    cases executed
    exact advances_releaseOperation changes drains
  | register jobType handler =>
    cases executed
    exact advances_register ordered drains
  | setWorkers count =>
    cases executed
    unfold World.setWorkers
    split
    · exact ⟨⟨drains.known, drains.permitted, drains.native,
        drains.closed⟩, trivial, .of_same rfl rfl rfl fun _ => id⟩
    · exact .stay drains trivial
  | passed other =>
    rcases of_enterStart executed with ⟨rfl, _⟩ | ⟨began, _⟩
    · exact .stay drains trivial
    · exact absurd began (other _ _)
  | beganNative native =>
    subst native
    exact advances_beganNative ordered drains executed
  | beganExternal external =>
    subst external
    exact advances_beganExternal drains executed
  | constructed =>
    rcases of_newWorker executed with ⟨_, failed, _⟩ | ⟨_, rfl⟩
    · cases failed
    · exact ⟨⟨drains.known, drains.permitted, drains.native,
        drains.closed⟩, knows, .of_same rfl rfl rfl fun _ => id⟩
  | unconstructed =>
    rcases of_newWorker executed with ⟨_, _, rfl⟩ | ⟨made, _⟩
    · exact .stay drains knows
    · cases made
  | published external worker =>
    subst external
    exact advances_publishWorker ordered (owned.start.mpr rfl) drains (.inr knows) executed
  | publishedNew external worker =>
    subst external
    exact advances_publishWorker ordered (owned.start.mpr rfl) drains (.inl knows) executed
  | startWorkers worker =>
    exact advances_startWorkers ordered (owned.start.mpr rfl) drains knows executed
  | abandonStart err =>
    cases executed
    exact advances_leaveStart ordered (owned.start.mpr rfl) drains (.inl rfl)
  | leaveStart worker same err =>
    cases executed
    exact advances_leaveStart ordered (owned.start.mpr rfl) drains
      (same.imp_right fun set => set.trans knows.symm)
  | joinedStart | joinedShutdown | gaveUp | startCompleted | busy | unsettled =>
      obtain ⟨rfl, _⟩ := of_receive executed
      exact .stay drains trivial
  | idled =>
    obtain ⟨rfl, _⟩ := of_receive executed
    exact .stay drains knows
  | awaits | awaitsAgain | joinsShutdown | closedAlready =>
    obtain ⟨kept, undisturbed, _⟩ := advances_enterShutdown drains executed
    exact ⟨kept, trivial, undisturbed⟩
  | beganShutdown =>
    obtain ⟨kept, undisturbed, found⟩ := advances_enterShutdown drains executed
    exact ⟨kept, found _ _ rfl, undisturbed⟩
  | drainWorkers | producerShutdown =>
    cases executed
    exact .stay drains knows
  | drained held =>
    have same := of_answer executed
    subst same
    refine advances_drained ordered (owned.shutdown.mpr rfl) drains ?_ (allowed rfl)
    rcases held with ⟨native, rfl⟩ | ⟨_, found⟩
    · exact drains.native native
    · exact Eq.trans knows found
  | undrained =>
    have same := of_answer executed
    subst same
    exact .stay drains trivial
  | forgotten external =>
    subst external
    cases executed
    exact advances_forgetWorker ordered (owned.shutdown.mpr rfl) drains knows
  | settled ready =>
    refine advances_snapshotIdle ordered drains ?_ executed
    rcases ready with ⟨_, rfl⟩ | ⟨_, rfl | rfl⟩
    · exact knows
    · exact knows
    · exact drains.quiet knows
  | settling ready idle =>
    refine advances_snapshotIdle ordered drains ?_ executed
    rcases ready with ⟨_, rfl⟩ | ⟨_, rfl | rfl⟩
    · exact knows
    · exact knows
    · exact drains.quiet knows
  | waited idle =>
    obtain ⟨rfl, received⟩ := of_receive executed
    have closed : idle ∈ world.state.operations.closed := by
      have ready := received rfl
      split at ready
      · assumption
      · cases ready
    -- The channel is closed when the last operation has ended.
    exact .stay drains ⟨knows.1, knows.2.resolve_right fun current =>
      (ordered.counts.idle_open idle current).1 closed⟩
  | close =>
    cases executed
    exact advances_leaveShutdown ordered (owned.shutdown.mpr rfl) drains fun _ => knows.2
  | failShutdown err =>
    cases executed
    exact advances_leaveShutdown ordered (owned.shutdown.mpr rfl) drains fun nil => by cases nil
  | absurd => exact absurd rfl owned.possible

/-- What is known of the drain, over what each call owns. -/
def draining (kind : Kind) : Assertions World Phase where
  shared := fun _ world => Drains kind world
  thread := fun _ phase world => Knows world phase

theorem drains_external (label : Nat) (drains : Drains kind before)
    (moved : external kind label before move = some (world, started))
    (allowed : permitsExpire.external before move world) :
    Drains kind world ∧ (∀ phase, Knows before phase -> Knows world phase) := by
  cases move with
  | deliver worker jobType =>
    obtain ⟨handler, invoked, same⟩ := Option.map_eq_some_iff.mp moved
    cases same
    refine ⟨⟨drains.known, ?_, drains.native, drains.closed⟩, fun _ => id⟩
    intro drained
    have undrained : worker ∉ before.drained := of_decide_eq_true allowed
    have equipped : before.backends worker ≠ [] := by
      intro unequipped
      simp [World.invokes, unequipped, Backend.target] at invoked
    exact absurd (drained worker equipped) undrained
  | settle permit =>
    cases moved
    refine ⟨⟨drains.known, ?_, drains.native, drains.closed⟩, fun _ => id⟩
    intro drained
    simp [drains.permitted drained]
  | _ =>
    cases moved
    exact ⟨drains, fun _ => id⟩

theorem draining_kept :
    ownership.KeptOver (draining kind) (machine kind) permitsExpire (callProtocol kind) where
  operation := by
    intro bound label phase next before world operation answer choice bounded
      shared thread moved executed allowed
    have advances := advances_of_move bounded shared.1 thread.1 shared.2
      thread.2 moved executed allowed
    exact ⟨advances.drains, advances.knows, fun other phase _ different owned knows =>
        knows.of_undisturbed advances.undisturbed different owned⟩
  blocked := fun _ _ executed => absurd executed never_blocked
  finished := by
    intro bound label phase before world result _ shared _ _ settled
    cases settled
    exact ⟨shared.2, fun _ _ _ _ _ knows => knows⟩
  idle := by
    intro bound before world move shared moved allowed
    obtain ⟨drains, knows⟩ := drains_external bound shared.2 moved allowed
    exact ⟨drains, fun _ phase _ _ _ => knows phase⟩
  started := by
    rintro bound before world move program _ shared moved allowed rfl
    obtain ⟨drains, knows⟩ := drains_external bound shared.2 moved allowed
    exact ⟨drains, trivial, fun _ phase _ _ _ => knows phase⟩

/-- Both layers. -/
def lifecycle (kind : Kind) : Assertions World Phase :=
  ownership.and (draining kind)

theorem lifecycle_initial : (lifecycle kind).Hold (callProtocol kind) (initial kind workers) := by
  refine Assertions.Hold.initial ⟨ordered_new, ?_⟩
  cases kind <;> exact
      { known := by simp [World.new]
        permitted := fun _ => rfl
        native := by simp [World.new]
        closed := by simp [World.new] }

/-- Along every run in which permits expire both layers hold. -/
theorem lifecycle_reaches
    (reached : (machine kind).Reaches permitsExpire (initial kind workers) config) :
    (lifecycle kind).Hold (callProtocol kind) config :=
  lifecycle_initial.reaches callProtocol_governs
    (ownership_kept.restrict.over draining_kept) reached

/-! ## Closing after a failure -/

/-- Any error. -/
def someError : GoError := .sentinel "context deadline exceeded"

/-- Every operation of a call can be answered. -/
theorem machine_responsive : (machine kind).Responsive permitsExpire := by
  intro label before operation
  cases operation with
  | enterStart kind =>
    refine ⟨.order before.state.registered.entries, ?_⟩
    cases kind with
    | native =>
      exact ⟨_, _, if_pos (List.Perm.refl _), fun drained => by
        cases drained⟩
    | external => exact ⟨_, _, rfl, fun drained => by cases drained⟩
  | publishWorker worker =>
    exact ⟨.order before.state.registered.entries, (), _,
      if_pos (List.Perm.refl _), fun drained => by cases drained⟩
  | _ => exact ⟨.fail someError, _, _, rfl, fun drained => by cases drained⟩

/-- A call owns a lease or an attempt. -/
def Gate.Owner (gate : Gate) (label : Nat) : Prop :=
  label ∈ gate.leases ∨ gate.start = some label ∨ gate.shutdown = some label

/-- Calls that own something are running. -/
def Accounted (config : Configuration) : Prop :=
  ∀ label, config.world.gate.Owner label -> (KeyedList.find label config.threads).isSome = true

theorem Owned.not_owner
    (owned : Owned label phase gate) (role : phase.role = .nothing) : ¬gate.Owner label := by
  rintro (leased | starting | shutting)
  · exact absurd (role.symm.trans (owned.lease.mp leased)) (by simp)
  · exact absurd (role.symm.trans (owned.start.mp starting)) (by simp)
  · exact absurd (role.symm.trans (owned.shutdown.mp shutting)) (by simp)

theorem Gate.Spares.owner {before : Gate} (spares : before.Spares label after)
    (different : other ≠ label) (owner : after.Owner other) :
    before.Owner other := by
  rcases owner with leased | starting | shutting
  · exact .inl ((spares.leases other different).mp leased)
  · exact .inr (.inl ((spares.start other different).mp starting))
  · exact .inr (.inr ((spares.shutdown other different).mp shutting))

theorem role_of_returned (follows : (callProtocol kind).Follows (.ret result) phase) :
    phase.role = .nothing := by
  have ended : Ends phase result := follows
  cases ended <;> rfl

theorem Accounted.step (hold : ownership.Hold (callProtocol kind) config)
    (accounted : Accounted config) (step : (machine kind).Step condition config after) :
    Accounted after := by
  intro other owner
  cases step with
  | @operation label operation next choice answer world running executed allowed =>
      obtain ⟨bounded, phase, follows, owned⟩ := hold.thread _ _ running
      obtain ⟨nextPhase, moved, _⟩ := follows answer
      have changes := changes_of_move bounded hold.shared owned moved executed
      by_cases same : other = label
      · subst same
        rw [config.find_resume running]
        rfl
      · have running := accounted other (changes.spares.owner same owner)
        simp only [Config.resume]
        rwa [KeyedList.find_replace_of_ne same]
  | blocked running executed => exact absurd executed never_blocked
  | @finished label result world running settled =>
    obtain ⟨_, phase, follows, owned⟩ := hold.thread _ _ running
    cases settled
    by_cases same : other = label
    · subst same
      exact absurd owner (owned.not_owner (role_of_returned follows))
    · simp only [Config.remove]
      rw [KeyedList.find_erase_of_ne same]
      exact accounted other owner
  | @external move world started moved allowed =>
    have gate := gate_of_external config.nextLabel moved
    cases started with
    | none => exact accounted other (gate ▸ owner)
    | some program =>
      have running := accounted other (gate ▸ owner)
      simp only [Config.spawn]
      rw [KeyedList.find_append_singleton]
      obtain ⟨found, present⟩ := Option.isSome_iff_exists.mp running
      rw [present]
      rfl

theorem accounted_reaches
    (reached : (machine kind).Reaches permitsExpire (initial kind workers) config) :
    Accounted config := by
  induction reached with
  | refl =>
    rintro label (leased | starting | shutting) <;> cases kind <;>
      simp_all [initial, Config.initial, World.new, World.gate]
  | tail earlier step ih => exact ih.step (lifecycle_reaches earlier).fst step

/-- A runtime whose calls have all returned belongs to nobody. -/
theorem unowned_of_returned
    (reached : (machine kind).Reaches permitsExpire (initial kind workers) config)
    (returned : ∀ label, config.Returned label) :
    ¬config.world.gate.Owner label := by
  intro owner
  obtain ⟨program, running⟩ := Option.isSome_iff_exists.mp (accounted_reaches reached label owner)
  obtain ⟨result, rfl⟩ := returned label program running
  obtain ⟨_, phase, follows, owned⟩ := (lifecycle_reaches reached).thread _ _ running
  exact owned.1.not_owner (role_of_returned follows) owner

/-- The configuration after every handler has returned. -/
def settle (config : Configuration) : Configuration :=
  { config with world := { config.world with permits := [] } }

/-- Handlers can return, which leaves no permit active. -/
theorem permits_settle : (machine kind).Reaches permitsExpire config (settle config) := by
  obtain ⟨world, threads, nextLabel⟩ := config
  induction remaining : world.permits generalizing world with
  | nil =>
    rw [settle, ← remaining]
    exact .refl
  | cons permit rest ih =>
    have moved : (machine kind).external nextLabel world (.settle permit) =
        some ({ world with permits := rest }, none) := by
      simp [machine, external, remaining]
    have allowed : permitsExpire.external world (.settle permit)
        { world with permits := rest } := rfl
    exact .head (.external moved allowed) (ih { world with permits := rest } rfl)

/-- A backend that answers a `Shutdown` without an error. -/
def calmly (label : Nat) : (operation : Op) -> World -> Option (operation.Answer × World)
  | .enterShutdown, world => some (world.enterShutdown label)
  | .drainWorkers _, world => some ((), world)
  | .drainReturned worker, world =>
    if world.permits = [] then
      some (none, { world with drained := worker :: world.drained })
    else none
  | .forgetWorker, world => some ((), world.forgetWorker)
  | .snapshotIdle, world => some (world.state.operations.idle, world)
  | .producerShutdown, world => some ((), world)
  | .producerReturned, world => some (none, world)
  | .leaveShutdown kind err, world => some ((), world.leaveShutdown kind label err)
  | _, _ => none

theorem calmly_possible (label : Nat) :
    (machine kind).Answers permitsExpire label (calmly label) := by
  intro operation before answer after answered
  refine ⟨.go, ?_⟩
  cases operation with
  | drainReturned worker =>
    simp only [calmly] at answered
    split at answered
    · rename_i expired
      cases answered
      exact ⟨rfl, fun _ => expired⟩
    · cases answered
  | enterShutdown =>
    have entered : before.enterShutdown label = (answer, after) := Option.some.inj answered
    exact ⟨by simp [machine, exec, entered], fun drained => by
      cases drained⟩
  | drainWorkers | forgetWorker | snapshotIdle | producerShutdown |
      producerReturned | leaveShutdown =>
      cases answered
      exact ⟨rfl, fun drained => by cases drained⟩
  | _ => cases answered

/-- What a `Shutdown` alone does to a runtime that belongs to nobody. -/
theorem interpret_shutdown (world : World) (unstarted : world.state.start = none)
    (idle : world.state.shutdown = none) (settled : world.state.operations.idle = none)
    (expired : world.permits = []) :
    ∃ after, after.state.closed = true ∧ Prog.interpret (calmly label) (kind.shutdown 2) world =
        some (.returned none, after) := by
  have ends : (Prog.interpret (calmly label) (kind.shutdown 2) world).any
      (fun ended => ended.1 = .returned none && ended.2.state.closed) = true := by
    cases closed : world.state.closed with
    | true =>
      simp [Kind.shutdown, ask, Prog.perform, calmly, World.enterShutdown, unstarted, idle, closed]
    | false =>
      cases kind with
      | native =>
        simp [Kind.shutdown, ask, Prog.perform, calmly, World.enterShutdown, unstarted, idle,
          closed, Kind.cleanUp, NativeQueueRuntime.cleanUp, waitForRuntimeOperations, settled,
          callDrain, expired, shutdownProducer, World.leaveShutdown]
      | external =>
        cases held : world.state.worker <;> simp [Kind.shutdown, ask, Prog.perform, calmly,
            World.enterShutdown, unstarted, idle, closed, Kind.cleanUp,
            ExternalQueueRuntime.cleanUp, waitForRuntimeOperations, settled, callDrain, expired,
            shutdownProducer, held, World.leaveShutdown, World.forgetWorker]
  obtain ⟨⟨result, after⟩, ran, checked⟩ := (Option.any_eq_true _ _).mp ends
  simp only [Bool.and_eq_true, decide_eq_true_eq] at checked
  obtain ⟨rfl, closes⟩ := checked
  exact ⟨after, closes, ran⟩

/-- Some continuation of the run ends with a `Shutdown`, called later, that
returns nil and leaves the runtime closed. -/
def CanStillClose (kind : Kind) (config : Configuration) : Prop :=
  ∃ later last : Configuration, (machine kind).Reaches permitsExpire config later ∧
    (machine kind).Reaches permitsExpire (later.spawn later.world (some (kind.shutdown 2))) last ∧
    KeyedList.find later.nextLabel last.threads = some (.ret (.returned none)) ∧
    last.world.state.closed = true

theorem canStillClose
    (reached : (machine kind).Reaches permitsExpire (initial kind workers) config) :
    CanStillClose kind config := by
  have responsive : (machine kind).Responsive permitsExpire := machine_responsive
  obtain ⟨ended, ran, _, returned⟩ := responsive.quiesces
  have unowned (label : Nat) : ¬ended.world.gate.Owner label :=
    unowned_of_returned (reached.trans ran) returned
  have hold := lifecycle_reaches (reached.trans ran)
  have free : ended.world.leases = [] :=
    List.eq_nil_iff_forall_not_mem.mpr fun label leased =>
      unowned label (.inl leased)
  have unstarted : ended.world.state.start = none :=
    Option.eq_none_iff_forall_not_mem.mpr fun label starting =>
      unowned label (.inr (.inl starting))
  have idle : ended.world.state.shutdown = none :=
    Option.eq_none_iff_forall_not_mem.mpr fun label shutting =>
      unowned label (.inr (.inr shutting))
  have settled : ended.world.state.operations.idle = none :=
    hold.shared.1.counts.idle.mpr (by simp [World.gate, free])
  obtain ⟨after, closed, interpreted⟩ := @interpret_shutdown kind
    ended.nextLabel { ended.world with permits := [] } unstarted idle settled rfl
  have called : KeyedList.find ended.nextLabel ((settle ended).spawn (settle ended).world
        (some (kind.shutdown 2))).threads = some (kind.shutdown 2) := by
    simp only [Config.spawn, settle]
    rw [KeyedList.find_append_singleton]
    cases found : KeyedList.find ended.nextLabel ended.threads with
    | none => simp
    | some program => exact absurd (hold.thread _ _ found).1 (Nat.lt_irrefl _)
  obtain ⟨last, closing, same, finished, _⟩ :=
    Machine.Reaches.of_interpret (@calmly_possible kind _) called interpreted
  exact ⟨settle ended, last, ran.trans permits_settle, closing, finished, same ▸ closed⟩

/-! ## The theorem -/

/-- A closed runtime stays closed. -/
theorem closed_of_exec {answer : operation.Answer}
    (executed : exec label before operation choice = some (some answer, world))
    (closed : before.state.closed = true) : world.state.closed = true := by
  cases operation with
  | acquireOperation ctx allowContinuation =>
    have refused : before.refuses ctx allowContinuation = true := by simp [World.refuses, closed]
    simp only [exec, World.acquireOperation_refused before label refused,
      World.continuationScopeLocked_eq] at executed
    cases executed
    exact closed
  | register jobType handler =>
    cases executed
    have gate := World.gate_register before jobType handler
    exact (congrArg Gate.closed gate).trans closed
  | setWorkers count =>
    cases executed
    exact (congrArg Gate.closed (World.gate_setWorkers before)).trans closed
  | enterStart kind =>
    rcases of_enterStart executed with ⟨rfl, _⟩ | ⟨_, unclosed, _⟩
    · exact closed
    · exact absurd (unclosed.symm.trans closed) (by simp)
  | newWorker workers => rcases of_newWorker executed with ⟨_, _, rfl⟩ | ⟨_, rfl⟩ <;> exact closed
  | publishWorker worker =>
    obtain ⟨order, _, rfl⟩ := of_publishWorker executed
    have gate := World.gate_publishWorker before worker order
    exact (congrArg Gate.closed gate).trans closed
  | enterShutdown =>
    rcases World.enterShutdown_cases before label (of_enterShutdown executed) with
      ⟨_, _, _, rfl⟩ | ⟨_, _, _, _, rfl⟩ | ⟨_, _, _, rfl⟩ | ⟨_, _, _, _, rfl⟩ <;> exact closed
  | operate | startReturned | producerReturned =>
    have same := of_answer executed
    rw [ite_self] at same
    exact same ▸ closed
  | drainReturned worker =>
    have same := of_answer executed
    split at same <;> exact same ▸ closed
  | waitForRuntimeStart | waitForRuntimeStartCompletion | waitForRuntimeShutdown | waitIdle =>
      exact (of_receive executed).1 ▸ closed
  | leaveShutdown kind err =>
    cases executed
    cases err <;> simp [World.leaveShutdown, closed]
  | _ =>
    cases executed
    exact closed

theorem closed_of_reaches (reached : (machine kind).Reaches condition config later)
    (closed : config.world.state.closed = true) :
    later.world.state.closed = true := by
  induction reached with
  | refl => exact closed
  | @tail middle _ _ step ih =>
    cases step with
    | operation _ executed => exact closed_of_exec executed ih
    | blocked _ executed => exact absurd executed never_blocked
    | finished _ settled =>
      cases settled
      exact ih
    | @external _ _ started moved _ =>
      have gate := gate_of_external middle.nextLabel moved
      have kept := (congrArg Gate.closed gate).trans ih
      cases started <;> exact kept

/-- The call is about to invoke the producer's `Shutdown`, or waits for it to
return. -/
def ClosesProducer (config : Configuration) (label : Nat) : Prop :=
  (∃ next, KeyedList.find label config.threads = some (.call .producerShutdown next)) ∨
  ∃ next, KeyedList.find label config.threads = some (.call .producerReturned next)

/-- The safety of shutting a runtime down, in one configuration. -/
structure ShutdownSafety (kind : Kind) (config : Configuration) : Prop where
  /-- The producer is closed only when nobody holds a lease, no start is in
  progress and the workers have been drained. -/
  producer : ∀ label, ClosesProducer config label -> config.world.leases = [] ∧
    config.world.starting = [] ∧ ∀ worker, worker ∈ config.world.activated ∨
    config.world.state.worker = some worker -> worker ∈ config.world.drained
  oneStart : config.world.starting.length ≤ 1
  oneShutdown : config.world.shuttingDown.length ≤ 1
  /-- While draining only operations with an active permit are admitted. -/
  admission : ∀ label ctx allowContinuation, config.world.state.draining = true ->
    (config.world.acquireOperation label ctx allowContinuation).1 = none ->
    allowContinuation = true ∧
    owns (World.continuationScopeLocked config.world.state).1 config.world.permits ctx = true
  /-- Once closed, no operation and no start is ever admitted again. -/
  final : config.world.state.closed = true -> ∀ later,
    (machine kind).Reaches permitsExpire config later -> later.world.state.closed = true ∧
    later.world.leases = [] ∧ later.world.starting = []
  /-- However shutdown attempts have ended, a later one can close. -/
  retryable : CanStillClose kind config

/-- Both kinds of calls of the producer's `Shutdown` are made in the last stage
of an attempt. -/
theorem closing_of_closesProducer (hold : (lifecycle kind).Hold (callProtocol kind) config)
    (closes : ClosesProducer config label) :
    Owned label (.shutting .closing) config.world.gate ∧
      Quiet config.world ∧ config.world.leases = [] := by
  rcases closes with ⟨next, running⟩ | ⟨next, running⟩
  all_goals
    obtain ⟨_, phase, follows, owned, knows⟩ := hold.thread _ _ running
  · obtain ⟨after, moved, _⟩ := follows ()
    cases moved with
    | producerShutdown => exact ⟨owned, knows⟩
    | absurd => exact absurd rfl owned.possible
  · obtain ⟨after, moved, _⟩ := follows none
    cases moved with
    | producerClosed => exact ⟨owned, knows⟩
    | absurd => exact absurd rfl owned.possible

/-- In every run in which permits expire with the drain of their backend,
shutting a runtime down is safe and final, and a failed shutdown can be
retried. -/
theorem shutdown_is_safe_and_final (kind : Kind) (workers : Int) {config : Configuration}
    (reached : (machine kind).Reaches permitsExpire (initial kind workers) config) :
    ShutdownSafety kind config := by
  have hold := lifecycle_reaches reached
  have ordered : Ordered config.nextLabel config.world.gate := hold.shared.1
  refine ⟨?_, ?_, ?_, ?_, ?_, canStillClose reached⟩
  · intro label closes
    obtain ⟨owned, quiet, free⟩ := closing_of_closesProducer hold closes
    obtain ⟨_, unstarted, _⟩ := ordered.exclusive (by simp [owned.shutdown.mpr rfl])
    refine ⟨free, ?_, fun worker used => quiet worker (.inr used)⟩
    exact ordered.starting.trans (by rw [unstarted]; rfl)
  · have length := congrArg List.length ordered.starting
    cases start : config.world.gate.start <;> simp_all [World.gate]
  · have length := congrArg List.length ordered.shuttingDown
    cases shutdown : config.world.gate.shutdown <;> simp_all [World.gate]
  · intro label ctx allowContinuation draining admitted
    cases decision : config.world.refuses ctx allowContinuation with
    | true =>
      rw [World.acquireOperation_refused _ label decision] at admitted
      cases admitted
    | false =>
      simp only [World.refuses, draining, Bool.true_and,
        Bool.or_eq_false_iff, Bool.not_eq_false'] at decision
      exact decision.2
  · intro closed later continued
    have laterClosed := closed_of_reaches continued closed
    have laterHold := lifecycle_reaches (reached.trans continued)
    have unstarted := laterHold.shared.1.closed laterClosed
    refine ⟨laterClosed, laterHold.shared.2.closed laterClosed, ?_⟩
    exact laterHold.shared.1.starting.trans (by rw [unstarted]; rfl)

/-- A worker is started, an operation is leased, a delivery is running and a
`Shutdown` gives up waiting. -/
def interruptedShutdown : List (Action Choice Move) :=
  [.external (.register "job" (some ⟨1⟩)), .run 0 .go, .external .startWorkers, .run 1 .go,
    .run 1 .go, .run 1 (.order [("job", ⟨1⟩)]), .run 1 .go, .run 1 .go, .run 1 .go,
    .external (.guarded {} true), .run 2 .go, .external (.deliver 0 "job"), .external .shutdown,
    .run 3 .go, .run 3 (.fail someError), .run 3 .go]

theorem shutdown_is_safe_and_final_interrupted :
    ∃ config : Configuration,
      (machine .external).Reaches permitsExpire (initial .external 0) config ∧
      config.world.state.draining = true ∧ config.world.leases = [2] ∧
      config.world.shutdownDone 3 = some (some someError) ∧ ShutdownSafety .external config := by
  obtain ⟨config, reached, draining, leases, failed⟩ :
      ∃ config, (machine .external).Reaches permitsExpire (initial .external 0) config ∧
        config.world.state.draining = true ∧ config.world.leases = [2] ∧
        config.world.shutdownDone 3 = some (some someError) :=
    Machine.Reaches.of_decide interruptedShutdown (by decide +kernel)
  exact ⟨config, reached, draining, leases, failed, shutdown_is_safe_and_final .external 0 reached⟩

end JobQueue.Lifecycle
