import JobQueue.Runtime.Lifecycle

/-!
# Phases of the calls of a runtime

A call of a runtime keeps to a protocol: what it asks for next depends on
whether it holds a lease, makes a start attempt or makes a shutdown attempt, and
on how far the attempt has come. The two runtimes have one protocol, which says
where they differ.
-/

namespace JobQueue.Lifecycle

open Interleaving

/-! ## Phases -/

/-- How far a shutdown attempt has come. -/
inductive Stage
  | opened (worker : Option Worker)
  /-- The worker drain returned nil. -/
  | drained
  /-- The worker is forgotten, or there was none. -/
  | detached
  /-- Waiting for the operations found after the drain. -/
  | settling (idle : Nat)
  /-- The producer may be shut down. -/
  | closing
  | failed
  deriving DecidableEq, Repr

/-- What a call of the runtime is doing. -/
inductive Phase
  | free
  | holding
  /-- A start attempt that has found this worker. -/
  | obtaining (worker : Option Worker)
  /-- A start attempt that has constructed a worker. -/
  | obtained (worker : Worker)
  /-- A start attempt that has installed the handlers on a worker. -/
  | activating (worker : Worker)
  /-- A `Shutdown` that waits for a start attempt. -/
  | awaiting (attempt : Nat)
  /-- A `Shutdown` that calls itself again. -/
  | again
  | shutting (stage : Stage)
  | finished
  | impossible
  deriving DecidableEq, Repr

/-- What a call can own. -/
inductive Role
  | nothing
  | lease
  | start
  | shutdown
  deriving DecidableEq, Repr

/-- What the call owns in a phase. -/
def Phase.role : Phase -> Role
  | .holding => .lease
  | .obtaining _ | .obtained _ | .activating _ => .start
  | .shutting _ => .shutdown
  | _ => .nothing

/-- What calls of a runtime ask for in each phase. -/
inductive CallMoves (kind : Kind) : Moves Op Op.Answer Phase
  | refused (ctx : Context) (allowContinuation : Bool) (err : GoError) :
      CallMoves kind .free (.acquireOperation ctx allowContinuation) (some err) .free
  | admitted (ctx : Context) (allowContinuation : Bool) :
      CallMoves kind .free (.acquireOperation ctx allowContinuation) none .holding
  | operate (err : Option GoError) : CallMoves kind .holding .operate err .holding
  | release : CallMoves kind .holding .releaseOperation () .free
  | register (jobType : String) (handler : Handler) :
      CallMoves kind .free (.register jobType handler) () .free
  | setWorkers (count : Int) : CallMoves kind .free (.setWorkers count) () .free
  | passed {entry : World.StartEntry} (other : ∀ worker workers, entry ≠ .began worker workers) :
      CallMoves kind .free (.enterStart kind) entry .free
  | beganNative (native : kind = .native) (worker : Option Worker) (workers : Int) :
      CallMoves kind .free (.enterStart .native) (.began worker workers) (.activating nativeBackend)
  | beganExternal (external : kind = .external) (worker : Option Worker) (workers : Int) :
      CallMoves kind .free (.enterStart .external) (.began worker workers) (.obtaining worker)
  | constructed (external : kind = .external) (workers : Int) (worker : Worker) :
      CallMoves kind (.obtaining none) (.newWorker workers) (.ok worker) (.obtained worker)
  | unconstructed (workers : Int) (err : GoError) :
      CallMoves kind (.obtaining none) (.newWorker workers) (.error err) (.obtaining none)
  | published (external : kind = .external) (worker : Worker) :
      CallMoves kind (.obtaining (some worker)) (.publishWorker worker) () (.activating worker)
  | publishedNew (external : kind = .external) (worker : Worker) :
      CallMoves kind (.obtained worker) (.publishWorker worker) () (.activating worker)
  | startWorkers (worker : Worker) :
      CallMoves kind (.activating worker) (.startWorkers worker) () (.activating worker)
  | startReturned (worker : Worker) (err : Option GoError) :
      CallMoves kind (.activating worker) (.startReturned worker) err (.activating worker)
  | abandonStart (err : GoError) :
      CallMoves kind (.obtaining none) (.leaveStart none (some err)) () .finished
  | leaveStart (worker : Worker) {set : Option Worker}
      (same : set = none ∨ set = some worker) (err : Option GoError) :
      CallMoves kind (.activating worker) (.leaveStart set err) () .finished
  | joinedStart (attempt : Nat) (err : Option GoError) :
      CallMoves kind .free (.waitForRuntimeStart attempt) err .free
  | awaits (attempt : Nat) :
      CallMoves kind .free .enterShutdown (.starting attempt) (.awaiting attempt)
  | awaitsAgain (attempt : Nat) :
      CallMoves kind .again .enterShutdown (.starting attempt) .impossible
  | joinsShutdown {phase : Phase} (entering : phase = .free ∨ phase = .again) (attempt : Nat) :
      CallMoves kind phase .enterShutdown (.joined attempt) .free
  | closedAlready {phase : Phase} (entering : phase = .free ∨ phase = .again) :
      CallMoves kind phase .enterShutdown .closed .free
  | beganShutdown {phase : Phase} (entering : phase = .free ∨ phase = .again)
      (worker : Option Worker) (idle : Option Nat) :
      CallMoves kind phase .enterShutdown (.began worker idle) (.shutting (.opened worker))
  | gaveUp (attempt : Nat) (err : GoError) :
      CallMoves kind (.awaiting attempt) (.waitForRuntimeStartCompletion attempt) (some err) .free
  | startCompleted (attempt : Nat) :
      CallMoves kind (.awaiting attempt) (.waitForRuntimeStartCompletion attempt) none .again
  | joinedShutdown (attempt : Nat) (err : Option GoError) :
      CallMoves kind .free (.waitForRuntimeShutdown attempt) err .free
  | idled (worker : Option Worker) (idle : Nat) :
      CallMoves kind (.shutting (.opened worker)) (.waitIdle idle) none (.shutting (.opened worker))
  | busy (worker : Option Worker) (idle : Nat) (err : GoError) :
      CallMoves kind (.shutting (.opened worker)) (.waitIdle idle) (some err) (.shutting .failed)
  | drainWorkers (found : Option Worker) (worker : Worker) :
      CallMoves kind (.shutting (.opened found)) (.drainWorkers worker) ()
        (.shutting (.opened found))
  | drained {found : Option Worker} {worker : Worker}
      (held : kind = .native ∧ worker = nativeBackend ∨ kind = .external ∧ found = some worker) :
      CallMoves kind (.shutting (.opened found)) (.drainReturned worker) none (.shutting .drained)
  | undrained (found : Option Worker) (worker : Worker) (err : GoError) :
      CallMoves kind (.shutting (.opened found)) (.drainReturned worker)
        (some err) (.shutting .failed)
  | forgotten (external : kind = .external) :
      CallMoves kind (.shutting .drained) .forgetWorker () (.shutting .detached)
  | settled {stage : Stage}
      (ready : kind = .native ∧ stage = .drained ∨
        kind = .external ∧ (stage = .detached ∨ stage = .opened none)) :
      CallMoves kind (.shutting stage) .snapshotIdle none (.shutting .closing)
  | settling {stage : Stage}
      (ready : kind = .native ∧ stage = .drained ∨
        kind = .external ∧ (stage = .detached ∨ stage = .opened none))
      (idle : Nat) :
      CallMoves kind (.shutting stage) .snapshotIdle (some idle) (.shutting (.settling idle))
  | waited (idle : Nat) :
      CallMoves kind (.shutting (.settling idle)) (.waitIdle idle) none (.shutting .closing)
  | unsettled (idle : Nat) (err : GoError) :
      CallMoves kind (.shutting (.settling idle)) (.waitIdle idle) (some err) (.shutting .failed)
  | producerShutdown : CallMoves kind (.shutting .closing) .producerShutdown () (.shutting .closing)
  | producerClosed : CallMoves kind (.shutting .closing) .producerReturned none (.shutting .closing)
  | producerFailed (err : GoError) :
      CallMoves kind (.shutting .closing) .producerReturned (some err) (.shutting .failed)
  | close : CallMoves kind (.shutting .closing) (.leaveShutdown kind none) () .finished
  | failShutdown (err : GoError) :
      CallMoves kind (.shutting .failed) (.leaveShutdown kind (some err)) () .finished

  | absurd (operation : Op) (answer : operation.Answer) :
      CallMoves kind .impossible operation answer .impossible

/-- How calls return. -/
inductive Ends : Phase -> Result -> Prop
  | free (err : Option GoError) : Ends .free (.returned err)
  | finished (err : Option GoError) : Ends .finished (.returned err)
  | impossible (result : Result) : Ends .impossible result

/-- The protocol of the calls of a runtime. -/
def callProtocol (kind : Kind) : Protocol World Op Op.Answer Result Move Phase where
  moves := CallMoves kind
  stop := Ends
  entry := fun _ _ _ phase => phase = .free

/-! ## Programs keep to the protocol -/

theorem meets_guarded : (callProtocol kind).Follows (guarded ctx allowContinuation) .free := by
  intro refused
  cases refused with
  | some err => exact ⟨.free, .refused _ _ _, .free _⟩
  | none =>
    exact ⟨.holding, .admitted _ _, fun err =>
      ⟨.holding, .operate err, fun _ =>
        ⟨.free, .release, .free _⟩⟩⟩

theorem meets_register : (callProtocol kind).Follows (register jobType handler) .free := by
  unfold register
  split
  · exact .free _
  · split
    · exact .free _
    · exact fun _ => ⟨.free, .register _ _, .free _⟩

theorem meets_setWorkers : (callProtocol kind).Follows (setWorkers count) .free :=
  fun _ => ⟨.free, .setWorkers count, .free _⟩

theorem meets_callStartWorkers :
    Meets (CallMoves kind) (callStartWorkers worker) (.activating worker)
      fun _ after => after = .activating worker :=
  fun _ => ⟨.activating worker, .startWorkers worker, fun err =>
    ⟨.activating worker, .startReturned worker err, rfl⟩⟩

/-- Joining the attempt of another call. -/
theorem meets_joinedStart :
    (callProtocol kind).Follows (ask (.waitForRuntimeStart attempt) >>= fun err =>
        pure (.returned err)) .free :=
  fun err => ⟨.free, .joinedStart attempt err, .free _⟩

/-- The part of `StartWorkers` after the handlers were installed. -/
theorem meets_activated {set : Option Worker} (same : set = none ∨ set = some worker) :
    (callProtocol kind).Follows (callStartWorkers worker >>= fun err =>
        ask (.leaveStart set err) >>= fun _ =>
          pure (.returned err)) (.activating worker) := by
  refine Meets.bind meets_callStartWorkers ?_
  rintro err _ rfl
  exact fun _ => ⟨.finished, .leaveStart _ same err, .finished _⟩

theorem meets_nativeStartWorkers :
    (callProtocol .native).Follows NativeQueueRuntime.startWorkers .free := by
  intro entry
  cases entry with
  | refused => exact ⟨.free, .passed (by simp), .free _⟩
  | started => exact ⟨.free, .passed (by simp), .free _⟩
  | joined attempt => exact ⟨.free, .passed (by simp), meets_joinedStart⟩
  | began worker workers =>
    exact ⟨.activating nativeBackend, .beganNative rfl worker workers, meets_activated (.inl rfl)⟩

theorem meets_externalStartWorkers :
    (callProtocol .external).Follows ExternalQueueRuntime.startWorkers .free := by
  intro entry
  cases entry with
  | refused => exact ⟨.free, .passed (by simp), .free _⟩
  | started => exact ⟨.free, .passed (by simp), .free _⟩
  | joined attempt => exact ⟨.free, .passed (by simp), meets_joinedStart⟩
  | began worker workers =>
    refine ⟨.obtaining worker, .beganExternal rfl worker workers, ?_⟩
    cases worker with
    | some worker =>
      exact fun _ => ⟨.activating worker, .published rfl worker, meets_activated (.inr rfl)⟩
    | none =>
      intro answer
      cases answer with
      | error err =>
        exact ⟨.obtaining none, .unconstructed workers err, fun _ =>
          ⟨.finished, .abandonStart err, .finished _⟩⟩
      | ok worker =>
        exact ⟨.obtained worker, .constructed rfl workers worker,
          fun _ => ⟨.activating worker, .publishedNew rfl worker, meets_activated (.inr rfl)⟩⟩

/-- How the cleanup of a shutdown attempt ends. -/
def CleanedUp (err : Option GoError) (phase : Phase) : Prop :=
  phase = .shutting (if err.isNone then .closing else .failed)

/-- The rule for what a shutdown attempt tries next: an error ends it. -/
theorem meets_unless {ready : Phase -> Prop}
    (meetsFirst : Meets (CallMoves kind) first phase fun err after =>
      match err with
      | some _ => after = .shutting .failed
      | none => ready after)
    (meetsSecond : ∀ after, ready after -> Meets (CallMoves kind) second after CleanedUp) :
    Meets (CallMoves kind) (first >>= fun
        | some err => pure (some err)
        | none => second) phase CleanedUp := by
  refine Meets.bind meetsFirst ?_
  intro err after ended
  cases err with
  | some err => exact ended
  | none => exact meetsSecond after ended

theorem meets_waitForRuntimeOperations :
    Meets (CallMoves kind) (waitForRuntimeOperations idle)
      (.shutting (.opened worker)) fun err after =>
        match err with
        | some _ => after = .shutting .failed
        | none => after = .shutting (.opened worker) := by
  cases idle with
  | none => rfl
  | some idle =>
    intro err
    cases err with
    | some err => exact ⟨_, .busy worker idle err, rfl⟩
    | none => exact ⟨_, .idled worker idle, rfl⟩

theorem meets_callDrain
    (held : kind = .native ∧ worker = nativeBackend ∨ kind = .external ∧ found = some worker) :
    Meets (CallMoves kind) (callDrain worker) (.shutting (.opened found)) fun err after =>
        match err with
        | some _ => after = .shutting .failed
        | none => after = .shutting .drained := by
  intro _
  refine ⟨_, .drainWorkers found worker, ?_⟩
  intro err
  cases err with
  | some err => exact ⟨_, .undrained found worker err, rfl⟩
  | none => exact ⟨_, .drained held, rfl⟩

theorem meets_producerShutdown :
    Meets (CallMoves kind) (ask .producerShutdown >>= fun _ => ask .producerReturned)
      (.shutting .closing) CleanedUp := by
  intro _
  refine ⟨_, .producerShutdown, ?_⟩
  intro err
  cases err with
  | some err => exact ⟨_, .producerFailed err, rfl⟩
  | none => exact ⟨_, .producerClosed, rfl⟩

theorem meets_shutdownProducer
    (ready : kind = .native ∧ stage = .drained ∨
      kind = .external ∧ (stage = .detached ∨ stage = .opened none)) :
    Meets (CallMoves kind) shutdownProducer (.shutting stage) CleanedUp := by
  intro idle
  cases idle with
  | none => exact ⟨_, .settled ready, meets_producerShutdown⟩
  | some idle =>
    refine ⟨_, .settling ready idle, ?_⟩
    intro err
    cases err with
    | some err => exact ⟨_, .unsettled idle err, rfl⟩
    | none => exact ⟨_, .waited idle, meets_producerShutdown⟩

theorem meets_cleanUp :
    Meets (CallMoves kind) (kind.cleanUp worker idle) (.shutting (.opened worker)) CleanedUp := by
  cases kind with
  | native =>
    refine meets_unless meets_waitForRuntimeOperations ?_
    rintro _ rfl
    refine meets_unless (meets_callDrain (.inl ⟨rfl, rfl⟩)) ?_
    rintro _ rfl
    exact meets_shutdownProducer (.inl ⟨rfl, rfl⟩)
  | external =>
    refine meets_unless meets_waitForRuntimeOperations ?_
    rintro _ rfl
    cases worker with
    | none => exact meets_shutdownProducer (.inr ⟨rfl, .inr rfl⟩)
    | some worker =>
      refine meets_unless (meets_callDrain (.inr ⟨rfl, rfl⟩)) ?_
      rintro _ rfl
      exact fun _ => ⟨_, .forgotten rfl, meets_shutdownProducer (.inr ⟨rfl, .inl rfl⟩)⟩

/-- The part of `Shutdown` that does not depend on a start in progress. -/
theorem meets_attempt :
    (callProtocol kind).Follows (kind.cleanUp worker idle >>= fun err =>
        ask (.leaveShutdown kind err) >>= fun _ =>
          pure (.returned err)) (.shutting (.opened worker)) := by
  refine Meets.bind meets_cleanUp ?_
  rintro err _ rfl
  cases err with
  | none => exact fun _ => ⟨.finished, .close, .finished _⟩
  | some err => exact fun _ => ⟨.finished, .failShutdown err, .finished _⟩

/-- A `Shutdown` that enters while no start is in progress keeps to the
protocol, and so does one that can still call itself. -/
theorem meets_shutdown (entering : phase = .free ∨ phase = .again)
    (starting : ∀ attempt, ∃ after, CallMoves kind phase .enterShutdown (.starting attempt) after ∧
        (callProtocol kind).Follows
          (ask (.waitForRuntimeStartCompletion attempt) >>= fun
            | some err => pure (.returned (some err))
            | none => kind.shutdown depth) after) :
    (callProtocol kind).Follows (kind.shutdown (depth + 1)) phase := by
  intro entry
  cases entry with
  | starting attempt => exact starting attempt
  | joined attempt =>
    exact ⟨.free, .joinsShutdown entering attempt, fun err =>
      ⟨.free, .joinedShutdown attempt err, .free _⟩⟩
  | closed => exact ⟨.free, .closedAlready entering, .free _⟩
  | began worker idle => exact ⟨_, .beganShutdown entering worker idle, meets_attempt⟩

theorem meets_shutdownAgain : (callProtocol kind).Follows (kind.shutdown 1) .again := by
  refine meets_shutdown (.inr rfl) ?_
  intro attempt
  refine ⟨.impossible, .awaitsAgain attempt, ?_⟩
  intro err
  refine ⟨.impossible, .absurd _ _, ?_⟩
  cases err with
  | some err => exact .impossible _
  | none => exact .impossible _

theorem meets_shutdownOnce : (callProtocol kind).Follows (kind.shutdown 2) .free := by
  refine meets_shutdown (.inl rfl) ?_
  intro attempt
  refine ⟨.awaiting attempt, .awaits attempt, ?_⟩
  intro err
  cases err with
  | some err => exact ⟨.free, .gaveUp attempt err, .free _⟩
  | none => exact ⟨.again, .startCompleted attempt, meets_shutdownAgain⟩

/-- Every call of a runtime keeps to the protocol. -/
theorem callProtocol_governs : (callProtocol kind).Governs (machine kind) := by
  intro label before world move program moved
  refine ⟨.free, rfl, ?_⟩
  cases move with
  | guarded ctx allowContinuation =>
    cases moved
    exact meets_guarded
  | register jobType handler =>
    cases moved
    exact meets_register
  | setWorkers count =>
    cases moved
    exact meets_setWorkers
  | startWorkers =>
    cases moved
    cases kind with
    | native => exact meets_nativeStartWorkers
    | external => exact meets_externalStartWorkers
  | shutdown =>
    cases moved
    exact meets_shutdownOnce
  | deliver worker jobType =>
    obtain ⟨_, _, impossible⟩ := Option.map_eq_some_iff.mp moved
    cases impossible
  | settle permit => cases moved

end JobQueue.Lifecycle
