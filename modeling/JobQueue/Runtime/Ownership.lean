import JobQueue.Runtime.Calls

/-!
# Who owns a lease, a start or a shutdown

The gate of a runtime is the part of its state that decides which call may
proceed: the lifecycle flags, the two attempts and the leased operations. In
each phase of a call it is known which of the lease, the start attempt and the
shutdown attempt belong to it. A start and a shutdown are never in progress
together, and nothing starts any more once a shutdown has been asked for.
-/

namespace JobQueue.Lifecycle

open Interleaving

/-! ## The gate -/

/-- The operation state after a lease was returned. -/
def OperationState.released (operations : OperationState) : OperationState :=
  if operations.release.1 then operations.release.2.markIdle
  else operations.release.2

/-- What decides which call may proceed. -/
structure Gate where
  operations : OperationState
  draining : Bool
  closed : Bool
  start : Option Nat
  shutdown : Option Nat
  startDone : Nat -> Option (Option GoError)
  leases : List Nat
  starting : List Nat
  shuttingDown : List Nat

/-- The gate of a runtime. -/
def World.gate (world : World) : Gate where
  operations := world.state.operations
  draining := world.state.draining
  closed := world.state.closed
  start := world.state.start
  shutdown := world.state.shutdown
  startDone := world.startDone
  leases := world.leases
  starting := world.starting
  shuttingDown := world.shuttingDown

namespace Gate

variable (label : Nat) (gate : Gate)

/-- Nothing starts any more. -/
def Stopping : Prop :=
  gate.draining = true ∨ gate.closed = true

/-- Admit an operation. -/
def grant : Gate :=
  { gate with operations := gate.operations.acquire, leases := label :: gate.leases }

/-- End an operation. -/
def release : Gate :=
  { gate with operations := gate.operations.released, leases := gate.leases.erase label }

/-- Begin a start attempt. -/
def beginStart : Gate :=
  { gate with start := some label, starting := label :: gate.starting }

/-- End a start attempt. -/
def leaveStart (err : Option GoError) (gate : Gate) : Gate :=
  { gate with
    start := none
    startDone := Function.update gate.startDone label (some err)
    starting := gate.starting.erase label }

/-- Refuse further operations. -/
def drain : Gate := { gate with draining := true }

/-- Begin a shutdown attempt. -/
def beginShutdown : Gate :=
  { gate with draining := true, shutdown := some label, shuttingDown := label :: gate.shuttingDown }

/-- A shutdown attempt failed. -/
def failShutdown : Gate :=
  { gate with shutdown := none, shuttingDown := gate.shuttingDown.erase label }

/-- The shutdown is complete. -/
def close : Gate :=
  { gate with
    draining := false
    closed := true
    shutdown := none
    shuttingDown := gate.shuttingDown.erase label }

end Gate

/-! ## What the critical sections do to the gate -/

namespace World

theorem continuationScopeLocked_eq (state : RuntimeState) :
    (continuationScopeLocked state).2 =
      { state with continuation := some (continuationScopeLocked state).1 } := by
  cases state with
  | mk registered slots worker registrations started draining closed start
      shutdown operations continuation workers =>
      cases continuation <;> rfl

variable (world : World) (label : Nat)

theorem acquireOperation_refused (refused : world.refuses ctx allowContinuation = true) :
    world.acquireOperation label ctx allowContinuation = (some errQueuerShuttingDown,
        { world with state := (continuationScopeLocked world.state).2 }) := by
  simp [acquireOperation, refused]

theorem acquireOperation_admitted (admitted : world.refuses ctx allowContinuation = false) :
    world.acquireOperation label ctx allowContinuation = (none,
        { world with
          state :=
            { (continuationScopeLocked world.state).2 with
              operations := world.state.operations.acquire }
          leases := label :: world.leases }) := by
  simp [acquireOperation, admitted, continuationScopeLocked_eq]

@[simp] theorem gate_install : (world.install worker entry).gate = world.gate := rfl

@[simp] theorem gate_catchUp : (world.catchUp worker order).gate = world.gate := by
  induction order generalizing world with
  | nil => rfl
  | cons entry rest ih => exact ih (world.install worker entry)

@[simp] theorem gate_register (jobType : String) (handler : Handler) :
    (world.register jobType handler).gate = world.gate := by
  unfold register
  dsimp only
  split
  · split <;> rfl
  · rfl

@[simp] theorem gate_setWorkers : (world.setWorkers count).gate = world.gate := by
  unfold setWorkers
  split <;> rfl

@[simp] theorem gate_publishWorker (worker : Worker) (order : List (String × Handler)) :
    (world.publishWorker worker order).gate = world.gate := by
  rw [publishWorker, gate_catchUp]
  rfl

/-- What the first critical section of `StartWorkers` does. -/
theorem enterStart_cases (entered : world.enterStart label = (entry, after)) :
    (after = world ∧ ∀ worker workers, entry ≠ .began worker workers) ∨
    (entry = .began world.state.worker world.state.workers ∧
      world.state.closed = false ∧ world.state.draining = false ∧
      world.state.started = false ∧ world.state.start = none ∧
      after =
        { world with
          state := { world.state with start := some label }
          starting := label :: world.starting }) := by
  unfold enterStart at entered
  split at entered
  · cases entered
    exact .inl ⟨rfl, by simp⟩
  rename_i live
  simp only [Bool.or_eq_true, not_or, Bool.not_eq_true] at live
  split at entered
  · cases entered
    exact .inl ⟨rfl, by simp⟩
  rename_i unstarted
  split at entered
  · cases entered
    exact .inl ⟨rfl, by simp⟩
  · rename_i free
    cases entered
    exact .inr ⟨rfl, live.1, live.2, by simpa using unstarted, free, rfl⟩

/-- What the first critical section of the native `StartWorkers` does. -/
theorem enterNativeStart_cases (entered : world.enterNativeStart label order = (entry, after)) :
    (after = world ∧ ∀ worker workers, entry ≠ .began worker workers) ∨
    (entry = .began world.state.worker world.state.workers ∧
      world.state.closed = false ∧ world.state.draining = false ∧
      world.state.started = false ∧ world.state.start = none ∧
      after = catchUp nativeBackend order
        { world with
          state := { world.state with start := some label }
          starting := label :: world.starting }) := by
  unfold enterNativeStart at entered
  split at entered
  · rename_i worker workers next shared
    cases entered
    rcases enterStart_cases world label shared with
      ⟨_, other⟩ | ⟨began, closed, draining, unstarted, free, same⟩
    · exact absurd rfl (other _ _)
    · exact .inr ⟨began, closed, draining, unstarted, free, by rw [same]⟩
  · rename_i other
    rcases enterStart_cases world label entered with passed | ⟨began, _, _, _, _, same⟩
    · exact .inl passed
    · exact absurd (entered.trans (by rw [began])) (other _ _ _)

/-- What the first critical section of `Shutdown` does. -/
theorem enterShutdown_cases (entered : world.enterShutdown label = (entry, after)) :
    (∃ attempt, world.state.start = some attempt ∧ entry = .starting attempt ∧
      after = { world with state := { world.state with draining := true } }) ∨
    (∃ attempt, world.state.start = none ∧
      world.state.shutdown = some attempt ∧ entry = .joined attempt ∧
      after = world) ∨
    (world.state.start = none ∧ world.state.closed = true ∧ entry = .closed ∧ after = world) ∨
    (world.state.start = none ∧ world.state.shutdown = none ∧ world.state.closed = false ∧
      entry = .began world.state.worker world.state.operations.idle ∧
      after =
        { world with
          state :=
            { world.state with draining := true, shutdown := some label }
          shuttingDown := label :: world.shuttingDown }) := by
  unfold enterShutdown at entered
  split at entered
  · rename_i attempt starting
    cases entered
    exact .inl ⟨attempt, starting, rfl, rfl⟩
  rename_i free
  split at entered
  · rename_i attempt shutting
    cases entered
    exact .inr (.inl ⟨attempt, free, shutting, rfl, rfl⟩)
  rename_i idle
  split at entered
  · rename_i closed
    cases entered
    exact .inr (.inr (.inl ⟨free, closed, rfl, rfl⟩))
  · rename_i live
    cases entered
    exact .inr (.inr (.inr ⟨free, idle, by simpa using live, rfl, rfl⟩))

end World

/-! ## Ownership -/

/-- The operation state of a runtime that so many calls have leased. -/
structure OperationState.Counts (operations : OperationState) (held : Nat) : Prop where
  active : operations.active = held
  idle : operations.idle = none ↔ held = 0
  idle_open : ∀ idle, operations.idle = some idle ->
    idle ∉ operations.closed ∧ idle < operations.made
  made : ∀ idle ∈ operations.closed, idle < operations.made

variable {operations : OperationState}

theorem OperationState.Counts.acquire (counts : operations.Counts held) :
    operations.acquire.Counts (held + 1) := by
  by_cases none_held : operations.active = 0
  · constructor
    · simp [OperationState.acquire, counts.active]
    · simp [OperationState.acquire, none_held]
    · intro idle same
      simp only [OperationState.acquire, none_held, if_true, Option.some.injEq] at same ⊢
      subst same
      exact ⟨fun member => Nat.lt_irrefl _ (counts.made _ member), Nat.lt_succ_self _⟩
    · intro idle member
      have earlier := counts.made idle member
      simp only [OperationState.acquire, none_held, if_true]
      exact Nat.lt_succ_of_lt earlier
  · constructor
    · simp [OperationState.acquire, counts.active]
    · have busy : held ≠ 0 := by
        have active := counts.active
        omega
      simp [OperationState.acquire, none_held, counts.idle, busy]
    · simpa [OperationState.acquire, none_held] using counts.idle_open
    · simpa [OperationState.acquire, none_held] using counts.made

theorem OperationState.Counts.release (counts : operations.Counts (held + 1)) :
    operations.released.Counts held := by
  have active := counts.active
  cases current : operations.idle with
  | none => exact absurd (counts.idle.mp current) (Nat.succ_ne_zero held)
  | some idle =>
    obtain ⟨_, made⟩ := counts.idle_open idle current
    by_cases last : held = 0
    · have ended : operations.active - 1 = 0 := by omega
      subst last
      constructor
      · simp [released, OperationState.release, markIdle, current, ended]
      · simp [released, OperationState.release, markIdle, current, ended]
      · simp [released, OperationState.release, markIdle, current, ended]
      · simpa [released, OperationState.release, markIdle, current, ended, made] using counts.made
    · have going : operations.active - 1 ≠ 0 := by omega
      constructor
      · simp only [released, OperationState.release, going, decide_false,
          Bool.false_and, Bool.false_eq_true, if_false]
        omega
      · simp [released, OperationState.release, going, current, last]
      · simpa [released, OperationState.release, going] using counts.idle_open
      · simpa [released, OperationState.release, going] using counts.made

/-- What holds of the gate in every run. -/
structure Ordered (bound : Nat) (gate : Gate) : Prop where
  distinct : gate.leases.Nodup
  counts : gate.operations.Counts gate.leases.length
  leases_lt : ∀ label ∈ gate.leases, label < bound
  starting : gate.starting = gate.start.toList
  start : ∀ label, gate.start = some label -> label < bound ∧ gate.startDone label = none
  done_lt : ∀ label, gate.startDone label ≠ none -> label < bound
  shuttingDown : gate.shuttingDown = gate.shutdown.toList
  shutdown_lt : ∀ label, gate.shutdown = some label -> label < bound
  exclusive : gate.shutdown ≠ none -> gate.draining = true ∧ gate.start = none ∧ gate.closed = false
  closed : gate.closed = true -> gate.start = none

/-- What a call owns of the gate. -/
structure Owned (label : Nat) (phase : Phase) (gate : Gate) : Prop where
  possible : phase ≠ .impossible
  lease : label ∈ gate.leases ↔ phase.role = .lease
  start : gate.start = some label ↔ phase.role = .start
  shutdown : gate.shutdown = some label ↔ phase.role = .shutdown
  unstarted : phase ≠ .finished -> gate.startDone label = none
  awaiting : ∀ attempt, phase = .awaiting attempt ->
    gate.Stopping ∧ (gate.start = none ∨ gate.start = some attempt)
  again : phase = .again -> gate.Stopping ∧ gate.start = none

/-- A change of the gate by one call that leaves alone what others own. -/
structure Gate.Spares (label : Nat) (before after : Gate) : Prop where
  leases : ∀ other, other ≠ label -> (other ∈ after.leases ↔ other ∈ before.leases)
  start : ∀ other, other ≠ label -> (after.start = some other ↔ before.start = some other)
  shutdown : ∀ other, other ≠ label -> (after.shutdown = some other ↔ before.shutdown = some other)
  startDone : ∀ other, other ≠ label -> after.startDone other = before.startDone other
  stopping : before.Stopping -> after.Stopping ∧ (after.start = before.start ∨ after.start = none)

theorem Gate.Spares.refl (gate : Gate) : gate.Spares label gate :=
  ⟨fun _ _ => Iff.rfl, fun _ _ => Iff.rfl, fun _ _ => Iff.rfl,
    fun _ _ => rfl, fun stopping => ⟨stopping, .inl rfl⟩⟩

theorem Owned.of_spares (spares : before.Spares label after) (different : other ≠ label)
    (owned : Owned other phase before) :
    Owned other phase after where
  possible := owned.possible
  lease := (spares.leases other different).trans owned.lease
  start := (spares.start other different).trans owned.start
  shutdown := (spares.shutdown other different).trans owned.shutdown
  unstarted := fun going =>
    (spares.startDone other different).trans (owned.unstarted going)
  awaiting := by
    intro attempt same
    obtain ⟨stopping, start⟩ := owned.awaiting attempt same
    obtain ⟨still, kept | ended⟩ := spares.stopping stopping
    · exact ⟨still, kept ▸ start⟩
    · exact ⟨still, .inl ended⟩
  again := by
    intro same
    obtain ⟨stopping, start⟩ := owned.again same
    obtain ⟨still, kept | ended⟩ := spares.stopping stopping
    · exact ⟨still, kept.trans start⟩
    · exact ⟨still, ended⟩

/-- What a change of the gate by one call must show. -/
structure Gate.Changes (bound label : Nat) (phase : Phase) (before after : Gate) : Prop where
  ordered : Ordered bound after
  owned : Owned label phase after
  spares : before.Spares label after

/-- Phases that say no more than what the call owns. -/
def Phase.plain : Phase -> Bool
  | .awaiting _ | .again | .impossible => false
  | _ => true

theorem Owned.of_plain (plain : phase.plain = true)
    (lease : label ∈ gate.leases ↔ phase.role = .lease)
    (start : gate.start = some label ↔ phase.role = .start)
    (shutdown : gate.shutdown = some label ↔ phase.role = .shutdown)
    (unstarted : phase ≠ .finished -> gate.startDone label = none) :
    Owned label phase gate := by
  refine ⟨?_, lease, start, shutdown, unstarted, ?_, ?_⟩
  · rintro rfl
    cases plain
  · rintro attempt rfl
    cases plain
  · rintro rfl
    cases plain

/-- A call may go on in a phase in which it owns the same. -/
theorem Gate.Changes.stay (ordered : Ordered bound gate) (owned : Owned label phase gate)
    (role : next.role = phase.role) (plain : next.plain = true) (going : phase ≠ .finished) :
    gate.Changes bound label next gate where
  ordered := ordered
  owned := .of_plain plain (role ▸ owned.lease) (role ▸ owned.start)
    (role ▸ owned.shutdown) fun _ => owned.unstarted going
  spares := .refl gate

section Transitions

variable (ordered : Ordered bound gate)
include ordered

theorem Gate.Changes.grant (bounded : label < bound) (owned : Owned label .free gate) :
    gate.Changes bound label .holding (gate.grant label) where
  ordered :=
    { ordered with
      distinct := List.nodup_cons.mpr
        ⟨fun held => absurd (owned.lease.mp held) (by simp [Phase.role]), ordered.distinct⟩
      counts := ordered.counts.acquire
      leases_lt := by
        simpa [Gate.grant, bounded] using ordered.leases_lt }
  owned := .of_plain rfl (by simp [Gate.grant, Phase.role])
    (by simpa [Gate.grant, Phase.role] using owned.start)
    (by simpa [Gate.grant, Phase.role] using owned.shutdown)
    fun _ => owned.unstarted (by simp)
  spares :=
    { Gate.Spares.refl gate with
      leases := by
        intro other different
        simp [Gate.grant, different] }

theorem Gate.Changes.release (owned : Owned label .holding gate) :
    gate.Changes bound label .free (gate.release label) where
  ordered :=
    { ordered with
      distinct := ordered.distinct.erase label
      counts := by
        have held : label ∈ gate.leases := owned.lease.mpr rfl
        have length : (gate.leases.erase label).length + 1 =
            gate.leases.length := by
          have positive := List.length_pos_of_mem held
          rw [List.length_erase_of_mem held]
          omega
        exact (length ▸ ordered.counts).release
      leases_lt := fun other member =>
        ordered.leases_lt other (List.mem_of_mem_erase member) }
  owned := .of_plain rfl (by simp [Gate.release, ordered.distinct.mem_erase_iff, Phase.role])
    (by simpa [Gate.release, Phase.role] using owned.start)
    (by simpa [Gate.release, Phase.role] using owned.shutdown)
    fun _ => owned.unstarted (by simp)
  spares :=
    { Gate.Spares.refl gate with
      leases := by
        intro other different
        simp [Gate.release, ordered.distinct.mem_erase_iff, different] }

theorem Gate.Changes.beginStart (bounded : label < bound) (owned : Owned label .free gate)
    (unclosed : gate.closed = false) (running : gate.draining = false)
    (unstarted : gate.start = none) (starts : next.role = .start) :
    gate.Changes bound label next (gate.beginStart label) where
  ordered :=
    { ordered with
      starting := by
        simp [Gate.beginStart, ordered.starting, unstarted]
      start := by
        rintro other same
        cases same
        exact ⟨bounded, owned.unstarted (by simp)⟩
      exclusive := by
        intro shutting
        obtain ⟨draining, _⟩ := ordered.exclusive shutting
        rw [running] at draining
        cases draining
      closed := by
        intro closed
        exact absurd (unclosed.symm.trans closed) (by simp) }
  owned := by
    refine .of_plain ?_ ?_ (by simp [Gate.beginStart, starts]) ?_ fun _ => owned.unstarted (by simp)
    · cases next <;> first | rfl | cases starts
    · rw [starts]
      simpa [Gate.beginStart, Phase.role] using owned.lease
    · rw [starts]
      simpa [Gate.beginStart, Phase.role] using owned.shutdown
  spares :=
    { Gate.Spares.refl gate with
      start := by
        intro other different
        simp [Gate.beginStart, unstarted, Ne.symm different]
      stopping := by
        rintro (draining | closed)
        · rw [running] at draining
          cases draining
        · rw [unclosed] at closed
          cases closed }

theorem Gate.Changes.leaveStart (bounded : label < bound) (owned : Owned label phase gate)
    (starts : phase.role = .start) (err : Option GoError) :
    gate.Changes bound label .finished (gate.leaveStart label err) where
  ordered :=
    { ordered with
      starting := by
        have mine := owned.start.mpr starts
        simp [Gate.leaveStart, ordered.starting, mine]
      start := by
        intro other same
        cases same
      done_lt := by
        intro other done
        by_cases same : other = label
        · exact same ▸ bounded
        · exact ordered.done_lt other (by
            simpa [Gate.leaveStart, same] using done)
      exclusive := by
        intro shutting
        obtain ⟨draining, _, live⟩ := ordered.exclusive shutting
        exact ⟨draining, rfl, live⟩
      closed := fun _ => rfl }
  owned := by
    obtain ⟨_, lease, _, shutdown, _⟩ := owned
    rw [starts] at lease shutdown
    exact .of_plain rfl (by simpa [Gate.leaveStart, Phase.role] using lease)
      (by simp [Gate.leaveStart, Phase.role])
      (by simpa [Gate.leaveStart, Phase.role] using shutdown) fun going => absurd rfl going
  spares :=
    { Gate.Spares.refl gate with
      start := by
        intro other different
        have mine := owned.start.mpr starts
        simp [Gate.leaveStart, mine, Ne.symm different]
      startDone := by
        intro other different
        simp [Gate.leaveStart, different]
      stopping := fun stopping => ⟨stopping, .inr rfl⟩ }

/-- A `Shutdown` that finds a start in progress. -/
theorem Gate.Changes.drain (owned : Owned label .free gate) (starting : gate.start = some attempt) :
    gate.Changes bound label (.awaiting attempt) gate.drain where
  ordered :=
    { ordered with
      exclusive := by
        intro shutting
        obtain ⟨_, unstarted, _⟩ := ordered.exclusive shutting
        rw [starting] at unstarted
        cases unstarted }
  owned :=
    { possible := by simp
      lease := owned.lease
      start := owned.start
      shutdown := owned.shutdown
      unstarted := fun _ => owned.unstarted (by simp)
      awaiting := by
        rintro other ⟨⟩
        exact ⟨.inl rfl, .inr starting⟩
      again := by simp }
  spares :=
    { Gate.Spares.refl gate with stopping := fun _ => ⟨.inl rfl, .inl rfl⟩ }

theorem Gate.Changes.beginShutdown (bounded : label < bound) (owned : Owned label phase gate)
    (entering : phase = .free ∨ phase = .again) (unstarted : gate.start = none)
    (idle : gate.shutdown = none) (unclosed : gate.closed = false) (stage : Stage) :
    gate.Changes bound label (.shutting stage) (gate.beginShutdown label) where
  ordered :=
    { ordered with
      shuttingDown := by
        simp [Gate.beginShutdown, ordered.shuttingDown, idle]
      shutdown_lt := by
        rintro other same
        cases same
        exact bounded
      exclusive := fun _ => ⟨rfl, unstarted, unclosed⟩ }
  owned := by
    have free : label ∉ gate.leases := by
      rw [owned.lease]
      rcases entering with rfl | rfl <;> simp [Phase.role]
    exact .of_plain rfl (by simpa [Gate.beginShutdown, Phase.role] using free)
      (by simp [Gate.beginShutdown, unstarted, Phase.role])
      (by simp [Gate.beginShutdown, Phase.role])
      fun _ => owned.unstarted (by rcases entering with rfl | rfl <;> simp)
  spares :=
    { Gate.Spares.refl gate with
      shutdown := by
        intro other different
        simp [Gate.beginShutdown, idle, Ne.symm different]
      stopping := fun _ => ⟨.inl rfl, .inl rfl⟩ }

/-- Both ends of a shutdown attempt give it up. -/
theorem Gate.Changes.endShutdown (owned : Owned label (.shutting stage) gate)
    (draining closed : Bool) (stopping : gate.Stopping -> draining = true ∨ closed = true) :
    gate.Changes bound label .finished
      { gate.failShutdown label with draining := draining, closed := closed } := by
  have mine := owned.shutdown.mpr rfl
  obtain ⟨_, unstarted, _⟩ := ordered.exclusive (by simp [mine])
  exact
    { ordered :=
        { ordered with
          shuttingDown := by
            simp [Gate.failShutdown, ordered.shuttingDown, mine]
          shutdown_lt := by
            intro other same
            cases same
          exclusive := fun shutting => absurd rfl shutting
          closed := fun _ => unstarted }
      owned := .of_plain rfl (by simpa [Gate.failShutdown, Phase.role] using owned.lease)
        (by simp [Gate.failShutdown, unstarted, Phase.role])
        (by simp [Gate.failShutdown, Phase.role])
        fun going => absurd rfl going
      spares :=
        { Gate.Spares.refl gate with
          shutdown := by
            intro other different
            simp [Gate.failShutdown, mine, Ne.symm different]
          stopping := fun before => ⟨stopping before, .inl rfl⟩ } }

end Transitions

/-! ## Every run -/

theorem of_receive (received : receive done before choice = some (some err, world)) :
    world = before ∧ (err = none -> done = some none) := by
  cases choice with
  | go =>
    obtain ⟨found, same, pair⟩ := Option.map_eq_some_iff.mp received
    cases pair
    exact ⟨rfl, fun nil => nil ▸ same⟩
  | fail error =>
    cases received
    exact ⟨rfl, fun nil => by cases nil⟩
  | order entries => cases received

theorem of_answer (answered : answer succeeded before choice = some (some err, world)) :
    world = if err.isNone then succeeded else before := by
  cases choice with
  | go =>
    cases answered
    rfl
  | fail error =>
    cases answered
    rfl
  | order entries => cases answered

variable {phase : Phase} {before world : World}

/-- An operation that leaves the gate as it is. -/
theorem Gate.Changes.unchanged (ordered : Ordered bound before.gate)
    (owned : Owned label phase before.gate) (same : world.gate = before.gate)
    (role : next.role = phase.role) (plain : next.plain = true) (going : phase ≠ .finished) :
    before.gate.Changes bound label next world.gate := by
  rw [same]
  exact .stay ordered owned role plain going

theorem changes_acquireOperation (bounded : label < bound) (ordered : Ordered bound before.gate)
    (owned : Owned label .free before.gate)
    (executed : exec label before (.acquireOperation ctx allowContinuation)
      choice = some (some refused, world)) :
    before.gate.Changes bound label (if refused.isNone then .holding else .free) world.gate := by
  simp only [exec] at executed
  cases decision : before.refuses ctx allowContinuation with
  | true =>
    rw [World.acquireOperation_refused before label decision,
      World.continuationScopeLocked_eq] at executed
    cases executed
    exact .stay ordered owned rfl rfl (by simp)
  | false =>
    rw [World.acquireOperation_admitted before label decision,
      World.continuationScopeLocked_eq] at executed
    cases executed
    exact .grant ordered bounded owned

/-- What the first critical section of `StartWorkers` does. -/
theorem of_enterStart
    (executed : exec label before (.enterStart kind) choice = some (some entry, world)) :
    (world = before ∧ ∀ worker workers, entry ≠ .began worker workers) ∨
    (entry = .began before.state.worker before.state.workers ∧
      before.state.closed = false ∧ before.state.draining = false ∧
      before.state.started = false ∧ before.state.start = none ∧
      ((kind = .native ∧ ∃ order, order.Perm before.state.registered.entries ∧
          world = World.catchUp nativeBackend order
            { before with
              state := { before.state with start := some label }
              starting := label :: before.starting }) ∨
        (kind = .external ∧ world =
            { before with
              state := { before.state with start := some label }
              starting := label :: before.starting }))) := by
  cases kind with
  | native =>
    cases choice with
    | go => cases executed
    | fail err => cases executed
    | order entries =>
      simp only [exec] at executed
      split at executed
      · rename_i permuted
        cases executed
        rcases World.enterNativeStart_cases before label rfl with
          passed | ⟨began, closed, draining, unstarted, free, same⟩
        · exact .inl passed
        · exact .inr ⟨began, closed, draining, unstarted, free, .inl ⟨rfl, entries, permuted, same⟩⟩
      · cases executed
  | external =>
    cases executed
    rcases World.enterStart_cases before label rfl with
      passed | ⟨began, closed, draining, unstarted, free, same⟩
    · exact .inl passed
    · exact .inr ⟨began, closed, draining, unstarted, free, .inr ⟨rfl, same⟩⟩

theorem of_newWorker
    (executed : exec label before (.newWorker workers) choice = some (some made, world)) :
    (∃ err, made = .error err ∧ world = before) ∨
    (made = .ok before.nextWorker ∧
      world = { before with nextWorker := before.nextWorker + 1 }) := by
  cases choice with
  | go =>
    cases executed
    exact .inr ⟨rfl, rfl⟩
  | fail err =>
    cases executed
    exact .inl ⟨err, rfl, rfl⟩
  | order entries => cases executed

theorem of_publishWorker
    (executed : exec label before (.publishWorker worker) choice = some (some (), world)) :
    ∃ order, order.Perm before.state.registered.entries ∧
      world = before.publishWorker worker order := by
  cases choice with
  | go => cases executed
  | fail err => cases executed
  | order entries =>
    simp only [exec] at executed
    split at executed
    · rename_i permuted
      cases executed
      exact ⟨entries, permuted, rfl⟩
    · cases executed

theorem of_enterShutdown
    (executed : exec label before .enterShutdown choice = some (some entry, world)) :
    before.enterShutdown label = (entry, world) := by
  cases executed
  rfl

theorem of_snapshotIdle
    (executed : exec label before .snapshotIdle choice = some (some idle, world)) :
    world = before ∧ before.state.operations.idle = idle := by
  cases executed
  exact ⟨rfl, rfl⟩

theorem changes_beginStart (bounded : label < bound) (ordered : Ordered bound before.gate)
    (owned : Owned label .free before.gate) (starts : next.role = .start)
    (executed : exec label before (.enterStart kind) choice =
      some (some (.began worker workers), world)) :
    before.gate.Changes bound label next world.gate := by
  rcases of_enterStart executed with ⟨_, other⟩ | ⟨_, closed, draining, _, free, after⟩
  · exact absurd rfl (other worker workers)
  · have changes := Gate.Changes.beginStart ordered bounded owned closed draining free starts
    rcases after with ⟨_, order, _, rfl⟩ | ⟨_, rfl⟩
    · rw [World.gate_catchUp]
      exact changes
    · exact changes

theorem changes_enterShutdown (kind : Kind) (bounded : label < bound)
    (ordered : Ordered bound before.gate) (owned : Owned label phase before.gate)
    (moved : CallMoves kind phase .enterShutdown entry next)
    (entered : before.enterShutdown label = (entry, world)) :
    before.gate.Changes bound label next world.gate := by
  rcases World.enterShutdown_cases before label entered with
    ⟨attempt, starting, rfl, rfl⟩ | ⟨attempt, unstarted, shutting, rfl, rfl⟩ |
      ⟨unstarted, closed, rfl, rfl⟩ | ⟨unstarted, idle, unclosed, rfl, rfl⟩
  · cases moved with
    | awaits => exact .drain ordered owned starting
    | awaitsAgain =>
      -- Nothing starts while this `Shutdown` calls itself again.
      obtain ⟨_, unstarted⟩ := owned.again rfl
      exact absurd (starting.symm.trans unstarted) (by simp)
    | absurd => exact absurd rfl owned.possible
  · cases moved with
    | joinsShutdown entering =>
      rcases entering with rfl | rfl <;> exact .stay ordered owned rfl rfl (by simp)
    | absurd => exact absurd rfl owned.possible
  · cases moved with
    | closedAlready entering =>
      rcases entering with rfl | rfl <;> exact .stay ordered owned rfl rfl (by simp)
    | absurd => exact absurd rfl owned.possible
  · cases moved with
    | beganShutdown entering =>
      exact .beginShutdown ordered bounded owned entering unstarted idle unclosed _
    | absurd => exact absurd rfl owned.possible

/-- A `Shutdown` that has seen the end of the start it waited for. -/
theorem Gate.Changes.startCompleted (ordered : Ordered bound gate)
    (owned : Owned label (.awaiting attempt) gate) (done : gate.startDone attempt = some err) :
    gate.Changes bound label .again gate where
  ordered := ordered
  owned :=
    { possible := by simp
      lease := owned.lease
      start := owned.start
      shutdown := owned.shutdown
      unstarted := fun _ => owned.unstarted (by simp)
      awaiting := by simp
      again := by
        obtain ⟨stopping, unstarted | mine⟩ := owned.awaiting attempt rfl
        · exact fun _ => ⟨stopping, unstarted⟩
        · rw [(ordered.start attempt mine).2] at done
          cases done }
  spares := .refl gate

/-- What a call asks for changes the gate as its phases say. -/
theorem changes_of_move {answer : operation.Answer} (bounded : label < bound)
    (ordered : Ordered bound before.gate) (owned : Owned label phase before.gate)
    (moved : CallMoves kind phase operation answer next)
    (executed : exec label before operation choice = some (some answer, world)) :
    before.gate.Changes bound label next world.gate := by
  cases moved with
  | refused | admitted => exact changes_acquireOperation bounded ordered owned executed
  | operate | startReturned | producerClosed | producerFailed =>
    have same := of_answer executed
    rw [ite_self] at same
    subst same
    exact .stay ordered owned rfl rfl (by simp)
  | release =>
    cases executed
    exact .release ordered owned
  | register jobType handler =>
    cases executed
    exact .unchanged ordered owned (World.gate_register _ _ _) rfl rfl (by simp)
  | setWorkers count =>
    cases executed
    exact .unchanged ordered owned (World.gate_setWorkers _) rfl rfl (by simp)
  | passed other =>
    rcases of_enterStart executed with ⟨rfl, _⟩ | ⟨began, _⟩
    · exact .stay ordered owned rfl rfl (by simp)
    · exact absurd began (other _ _)
  | beganNative | beganExternal => exact changes_beginStart bounded ordered owned rfl executed
  | constructed | unconstructed =>
    rcases of_newWorker executed with ⟨_, _, rfl⟩ | ⟨_, rfl⟩ <;>
      exact .unchanged ordered owned rfl rfl rfl (by simp)
  | published | publishedNew =>
    obtain ⟨order, _, rfl⟩ := of_publishWorker executed
    exact .unchanged ordered owned (World.gate_publishWorker _ _ _) rfl rfl (by simp)
  | startWorkers | drainWorkers | forgotten | producerShutdown =>
    cases executed
    exact .unchanged ordered owned rfl rfl rfl (by simp)
  | abandonStart | leaveStart =>
    cases executed
    exact .leaveStart ordered bounded owned rfl _
  | joinedStart | joinedShutdown | gaveUp | idled | busy | waited | unsettled =>
      obtain ⟨rfl, _⟩ := of_receive executed
      exact .stay ordered owned rfl rfl (by simp)
  | awaits =>
    exact changes_enterShutdown kind bounded ordered owned (.awaits _) (of_enterShutdown executed)
  | awaitsAgain =>
    exact changes_enterShutdown kind bounded ordered owned (.awaitsAgain _)
      (of_enterShutdown executed)
  | joinsShutdown entering =>
    exact changes_enterShutdown kind bounded ordered owned
      (.joinsShutdown entering _) (of_enterShutdown executed)
  | closedAlready entering =>
    exact changes_enterShutdown kind bounded ordered owned
      (.closedAlready entering) (of_enterShutdown executed)
  | beganShutdown entering =>
    exact changes_enterShutdown kind bounded ordered owned
      (.beganShutdown entering _ _) (of_enterShutdown executed)
  | startCompleted attempt =>
    obtain ⟨rfl, received⟩ := of_receive executed
    obtain ⟨err, done, _⟩ := Option.map_eq_some_iff.mp (received rfl)
    exact .startCompleted ordered owned done
  | drained | undrained =>
    have same := of_answer executed
    subst same
    exact .unchanged ordered owned rfl rfl rfl (by simp)
  | settled | settling =>
    obtain ⟨rfl, _⟩ := of_snapshotIdle executed
    exact .stay ordered owned rfl rfl (by simp)
  | close =>
    cases executed
    exact .endShutdown ordered owned false true fun _ => .inr rfl
  | failShutdown err =>
    cases executed
    exact .endShutdown ordered owned before.gate.draining before.gate.closed id
  | absurd => exact absurd rfl owned.possible

/-- What the gate says and what each call owns of it. -/
def ownership : Assertions World Phase where
  shared := fun bound world => Ordered bound world.gate
  thread := fun label phase world => Owned label phase world.gate

theorem Ordered.spawn (ordered : Ordered bound gate) : Ordered (bound + 1) gate :=
  { ordered with
    leases_lt := fun label member =>
      Nat.lt_succ_of_lt (ordered.leases_lt label member)
    start := fun label same =>
      ⟨Nat.lt_succ_of_lt (ordered.start label same).1, (ordered.start label same).2⟩
    done_lt := fun label done =>
      Nat.lt_succ_of_lt (ordered.done_lt label done)
    shutdown_lt := fun label same =>
      Nat.lt_succ_of_lt (ordered.shutdown_lt label same) }

/-- A new call owns nothing. -/
theorem Owned.new (ordered : Ordered bound gate) : Owned bound .free gate where
  possible := by simp
  lease := by
    have new : bound ∉ gate.leases := fun member =>
      Nat.lt_irrefl _ (ordered.leases_lt bound member)
    simpa [Phase.role] using new
  start := by
    have new : gate.start ≠ some bound := fun same =>
      Nat.lt_irrefl _ (ordered.start bound same).1
    simpa [Phase.role] using new
  shutdown := by
    have new : gate.shutdown ≠ some bound := fun same =>
      Nat.lt_irrefl _ (ordered.shutdown_lt bound same)
    simpa [Phase.role] using new
  unstarted := by
    intro _
    by_contra done
    exact Nat.lt_irrefl _ (ordered.done_lt bound done)
  awaiting := by simp
  again := by simp

/-- Moves of callers and backends leave the gate as it is. -/
theorem gate_of_external (label : Nat)
    (moved : external kind label before move = some (world, started)) :
    world.gate = before.gate := by
  cases move with
  | deliver worker jobType =>
    obtain ⟨_, _, same⟩ := Option.map_eq_some_iff.mp moved
    cases same
    rfl
  | _ =>
    cases moved
    rfl

/-- Every operation is answered at once. -/
theorem never_blocked : exec label before operation choice ≠ some (none, world) := by
  intro executed
  cases operation with
  | enterStart kind => cases kind <;> cases choice <;> simp [exec] at executed
  | _ => cases choice <;> simp [exec, receive, answer] at executed

theorem ownership_kept : ownership.Kept (machine kind) .always (callProtocol kind) where
  operation := by
    intro bound label phase next before world operation answer choice bounded
      ordered owned moved executed _
    have changes := changes_of_move bounded ordered owned moved executed
    exact ⟨changes.ordered, changes.owned,
      fun other phase _ different known => known.of_spares changes.spares different⟩
  blocked := fun _ _ executed => absurd executed never_blocked
  finished := by
    intro bound label phase before world result _ ordered _ _ settled
    cases settled
    exact ⟨ordered, fun _ _ _ _ known => known⟩
  idle := by
    intro bound before world move ordered moved _
    have same := gate_of_external bound moved
    simp only [ownership, Assertions.Frame, same]
    exact ⟨ordered, fun _ _ _ _ known => known⟩
  started := by
    rintro bound before world move program _ ordered moved _ rfl
    have same := gate_of_external bound moved
    simp only [ownership, Assertions.Frame, same]
    exact ⟨ordered.spawn, .new ordered, fun _ _ _ _ known => known⟩

theorem ordered_new : Ordered 0 (World.new kind workers).gate := by
  cases kind <;> exact
      { distinct := List.nodup_nil
        counts := ⟨rfl, by simp [World.new, World.gate],
          by simp [World.new, World.gate], by simp [World.new, World.gate]⟩
        leases_lt := by simp [World.new, World.gate]
        starting := rfl
        start := by simp [World.new, World.gate]
        done_lt := by simp [World.new, World.gate]
        shuttingDown := rfl
        shutdown_lt := by simp [World.new, World.gate]
        exclusive := by simp [World.new, World.gate]
        closed := by simp [World.new, World.gate] }

/-- No `Shutdown` is cut off. It sets draining before it waits for a start attempt,
which forbids another start, so it finds none when it calls itself. -/
theorem never_cut (reached : (machine kind).Reaches .always (initial kind workers) config)
    (label : Nat) : KeyedList.find label config.threads ≠ some (.ret .cut) := by
  intro found
  have fresh : ownership.Hold (callProtocol kind) (initial kind workers) := .initial ordered_new
  obtain ⟨_, phase, ends, owned⟩ :=
    (fresh.reaches callProtocol_governs ownership_kept reached).thread label _ found
  cases ends with
  | impossible => exact owned.possible rfl

end JobQueue.Lifecycle
