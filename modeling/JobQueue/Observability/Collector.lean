import JobQueue.Machines.Gauge
import Mathlib.Data.Multiset.Count

/-!
# The statistics collector

`StatsCollector` folds observer events into counters per queue. A physical
execution is counted in one of three places: under its settlement identity, under
the execution key of its events, or without correlation. The `Active` gauge is
their total, and an execution leaves it only through its own correlation.
-/

namespace JobQueue.Observability

/-- The kinds `Observe` distinguishes; every other kind is a name to it. -/
inductive EventKind where
  | enqueueAccepted
  | enqueueRejected
  | enqueueDuplicate
  | enqueueCanceled
  | processStarted
  | processSucceeded
  | processFailed
  | processRetried
  | processArchived
  | queuePaused
  | queueResumed
  | settlementFailed
  | other (name : String)
  deriving DecidableEq

/-- The event fields the collector reads; no time is the zero time. -/
structure Event where
  kind : EventKind
  queue : String := ""
  jobKey : String := ""
  dispatchID : String := ""
  jobID : String := ""
  attempt : Int := 0
  scheduled : Bool := false
  duration : Int := 0
  time : Option Int := none

/-- The counters of one queue that a snapshot returns. -/
structure QueueCounters where
  pending : Int := 0
  active : Int := 0
  scheduled : Int := 0
  retry : Int := 0
  archived : Int := 0
  processed : Int := 0
  failed : Int := 0
  paused : Int := 0
  avgWait : Int := 0
  avgRun : Int := 0

/-- What the collector keeps for one queue. The count of a key in `activeByKey`
is its value in the source's map, which never holds a zero. -/
structure CollectorQueueState (σ : Type) where
  counters : QueueCounters := {}
  processedAt : List Int := []
  failedAt : List Int := []
  pendingByKey : String -> List Int := fun _ => []
  activeSettlements : Finset σ := ∅
  activeByKey : Multiset String := 0
  uncorrelatedActive : Int := 0
  waitSum : Int := 0
  waitCount : Int := 0
  runSum : Int := 0
  runCount : Int := 0

/-- The strongest identity the event alone gives. -/
def collectorExecutionKey (event : Event) : String :=
  if event.jobID = "" then ""
  else event.dispatchID ++ "\x00" ++ event.jobID ++ "\x00" ++ toString event.attempt

/-- The two ways an execution is recognised. -/
inductive Correlation (σ : Type) where
  | settlement (identity : σ)
  | key (key : String)
  deriving DecidableEq

/-- The correlation of an event: the identity in its context, or its key. -/
def correlation {σ : Type} (settlement : Option σ) (event : Event) : Correlation σ :=
  match settlement with
  | some identity => .settlement identity
  | none => .key (collectorExecutionKey event)

namespace CollectorQueueState

variable {σ : Type} [DecidableEq σ] (state : CollectorQueueState σ)

/-- Change the gauge. -/
def addActive (change : Int) : CollectorQueueState σ :=
  { state with counters := { state.counters with active := state.counters.active + change } }

/-- Records one physical handler invocation. -/
def openActive (settlement : Option σ) (event : Event) : CollectorQueueState σ :=
  match settlement with
  | some identity =>
    if identity ∈ state.activeSettlements then state
    else ({ state with activeSettlements := insert identity state.activeSettlements }).addActive 1
  | none =>
    let key := collectorExecutionKey event
    if key ≠ "" then
      ({ state with activeByKey := key ::ₘ state.activeByKey }).addActive 1
    else
      ({ state with uncorrelatedActive := state.uncorrelatedActive + 1 }).addActive 1

/-- Decrements the gauge unless it is zero. -/
def dropActive : CollectorQueueState σ :=
  if 0 < state.counters.active then state.addActive (-1) else state

/-- Removes one execution without settlement identity, if there is one. -/
def closeByKey (key : String) : Option (CollectorQueueState σ) :=
  if key = "" ∧ 0 < state.uncorrelatedActive then
    some ({ state with uncorrelatedActive := state.uncorrelatedActive - 1 }).dropActive
  else if key ≠ "" ∧ 0 < state.activeByKey.count key then
    some ({ state with activeByKey := state.activeByKey.erase key }).dropActive
  else none

/-- Deletes one exact physical boundary without changing the gauge. -/
def removeSettlement (identity : σ) : Option (CollectorQueueState σ) :=
  if identity ∈ state.activeSettlements then
    some { state with activeSettlements := state.activeSettlements.erase identity }
  else none

/-- Removes the matching invocation under its strongest correlation. -/
def closeActive (settlement : Option σ) (event : Event) : Option (CollectorQueueState σ) :=
  match settlement with
  | some identity => (state.removeSettlement identity).map dropActive
  | none => state.closeByKey (collectorExecutionKey event)

/-- Only an exact identity lets a settlement fact close an execution. -/
def closeSettlementActive (settlement : Option σ) (event : Event) :
    Option (CollectorQueueState σ) :=
  if settlement.isNone then none else state.closeActive settlement event

/-- Takes the oldest enqueue time of a job key and averages its wait. -/
def recordWait (key : String) (now : Int) : CollectorQueueState σ :=
  if key = "" then state
  else match state.pendingByKey key with
    | [] => state
    | enqueuedAt :: rest =>
      let state := { state with pendingByKey := Function.update state.pendingByKey key rest }
      if enqueuedAt < now then
        let waitSum := state.waitSum + (now - enqueuedAt)
        let waitCount := state.waitCount + 1
        { state with
          waitSum := waitSum
          waitCount := waitCount
          counters := { state.counters with avgWait := waitSum.tdiv waitCount } }
      else state

/-- Average the run time of a finished execution. -/
def recordRun (duration : Int) : CollectorQueueState σ :=
  let runSum := state.runSum + duration
  let runCount := state.runCount + 1
  { state with
    runSum := runSum
    runCount := runCount
    counters := { state.counters with avgRun := runSum.tdiv runCount } }

/-- The longest window of the throughput, in nanoseconds. -/
def week : Int := 7 * 24 * 3600 * 1000000000

/-- Forget what finished more than a week ago. -/
def pruneThroughputLocked (now : Int) : CollectorQueueState σ :=
  { state with
    processedAt := state.processedAt.dropWhile (· < now - week)
    failedAt := state.failedAt.dropWhile (· < now - week) }

/-- The body of `Observe` on the state of the event's queue. -/
def observe (settlement : Option σ) (event : Event) (now : Int) : CollectorQueueState σ :=
  let counters := state.counters
  let next := match event.kind with
    | .enqueueAccepted =>
      { state with
        counters := { counters with
          pending := counters.pending + 1
          scheduled := if event.scheduled then counters.scheduled + 1
            else counters.scheduled }
        pendingByKey := if event.jobKey = "" then state.pendingByKey
          else Function.update state.pendingByKey event.jobKey
            (state.pendingByKey event.jobKey ++ [now]) }
    | .enqueueRejected | .enqueueCanceled | .enqueueDuplicate => state
    | .processStarted =>
      let state := { state with
        counters := { counters with
          pending := if 0 < counters.pending then counters.pending - 1
            else counters.pending
          scheduled :=
            if 0 < counters.scheduled ∧ event.scheduled = true then
              counters.scheduled - 1
            else counters.scheduled } }
      (state.openActive settlement event).recordWait event.jobKey now
    | .processRetried => { state with counters := { counters with retry := counters.retry + 1 } }
    | .processArchived =>
      { state with counters := { counters with archived := counters.archived + 1 } }
    | .queuePaused => { state with counters := { counters with paused := 1 } }
    | .queueResumed => { state with counters := { counters with paused := 0 } }
    | .processSucceeded =>
      let state := (state.closeActive settlement event).getD state
      ({ state with
        counters := { state.counters with processed := state.counters.processed + 1 }
        processedAt := state.processedAt ++ [now] }).recordRun event.duration
    | .processFailed =>
      let state := (state.closeActive settlement event).getD state
      ({ state with
        counters := { state.counters with failed := state.counters.failed + 1 }
        failedAt := state.failedAt ++ [now] }).recordRun event.duration
    | .settlementFailed => (state.closeSettlementActive settlement event).getD state
    | .other _ => state
  next.pruneThroughputLocked now

end CollectorQueueState

/-- One call of `Observe`: the settlement identity its context carries, the
event, and the clock reading for an event without time. -/
structure Observation (σ : Type) where
  settlement : Option σ := none
  event : Event
  clock : Int := 0

namespace Observation

variable {σ : Type}

/-- The queue an event is counted for. -/
def queue (observation : Observation σ) : String :=
  if observation.event.queue = "" then "default" else observation.event.queue

/-- The execution an event starts. -/
def started (observation : Observation σ) : Option (Correlation σ) :=
  match observation.event.kind with
  | .processStarted => some (correlation observation.settlement observation.event)
  | _ => none

/-- The execution an event terminates. A settlement failure speaks of an
execution only through an identity. -/
def terminated (observation : Observation σ) : Option (Correlation σ) :=
  match observation.event.kind with
  | .processSucceeded | .processFailed =>
    some (correlation observation.settlement observation.event)
  | .settlementFailed => observation.settlement.map .settlement
  | _ => none

end Observation

/-- The collector: a state for every queue name, fresh until first observed. -/
abbrev StatsCollector (σ : Type) := String -> CollectorQueueState σ

namespace StatsCollector

variable {σ : Type} [DecidableEq σ]

/-- `NewStatsCollector`. -/
def newStatsCollector : StatsCollector σ := fun _ => {}

/-- `Observe`. -/
def observe (collector : StatsCollector σ) (observation : Observation σ) : StatsCollector σ :=
  Function.update collector observation.queue
    ((collector observation.queue).observe observation.settlement
      observation.event (observation.event.time.getD observation.clock))

/-- The collector after a sequence of events. -/
def observeAll (observations : List (Observation σ)) : StatsCollector σ :=
  observations.foldl observe newStatsCollector

end StatsCollector

/-! ### What counting executions leaves alone -/

namespace CollectorQueueState

variable {σ : Type} [DecidableEq σ] (state : CollectorQueueState σ)

/-- The waiting gauges and the recorded times: counting executions and waits
touches none of them. -/
def apart : (Int × Int) × List Int × List Int :=
  ((state.counters.pending, state.counters.scheduled), state.processedAt, state.failedAt)

theorem apart_openActive (settlement : Option σ) (event : Event) :
    (state.openActive settlement event).apart = state.apart := by
  unfold openActive
  cases settlement <;> dsimp only <;> split <;> rfl

omit [DecidableEq σ] in
theorem apart_dropActive : state.dropActive.apart = state.apart := by
  unfold dropActive
  split <;> rfl

theorem apart_closeActive (settlement : Option σ) (event : Event) :
    ((state.closeActive settlement event).getD state).apart = state.apart := by
  cases settlement with
  | some identity =>
    simp only [closeActive, removeSettlement]
    split
    · exact apart_dropActive _
    · rfl
  | none =>
    simp only [closeActive, closeByKey]
    split
    · exact apart_dropActive _
    · split
      · exact apart_dropActive _
      · rfl

omit [DecidableEq σ] in
theorem apart_recordWait (key : String) (now : Int) :
    (state.recordWait key now).apart = state.apart := by
  unfold recordWait
  split
  · rfl
  · split
    · rfl
    · dsimp only
      split <;> rfl

end CollectorQueueState

/-! ### Open executions -/

namespace CollectorQueueState

variable {σ : Type} [DecidableEq σ]

/-- The number of open executions under a correlation. -/
def opened (state : CollectorQueueState σ) : Correlation σ -> Nat
  | .settlement identity =>
    if identity ∈ state.activeSettlements then 1 else 0
  | .key key =>
    if key = "" then state.uncorrelatedActive.toNat
    else state.activeByKey.count key

/-- The gauge is the total of the three places. -/
structure Balanced (state : CollectorQueueState σ) : Prop where
  total : state.counters.active = (state.activeSettlements.card : Int) +
    (state.activeByKey.card : Int) + state.uncorrelatedActive
  nonnegative : 0 ≤ state.uncorrelatedActive
  named : "" ∉ state.activeByKey

/-- Two states with the same open executions. -/
def SameActive (first second : CollectorQueueState σ) : Prop :=
  second.counters.active = first.counters.active ∧
    second.activeSettlements = first.activeSettlements ∧ second.activeByKey = first.activeByKey ∧
    second.uncorrelatedActive = first.uncorrelatedActive

variable {state : CollectorQueueState σ} {settlement : Option σ}

omit [DecidableEq σ] in
theorem SameActive.balanced (same : SameActive state next) (balanced : state.Balanced) :
    next.Balanced := by
  obtain ⟨active, settlements, keys, uncorrelated⟩ := same
  refine ⟨?_, ?_, ?_⟩
  · rw [active, settlements, keys, uncorrelated, balanced.total]
  · rw [uncorrelated]
    exact balanced.nonnegative
  · rw [keys]
    exact balanced.named

theorem SameActive.opened_eq (same : SameActive state next) : next.opened = state.opened := by
  obtain ⟨_, settlements, keys, uncorrelated⟩ := same
  funext correlation
  cases correlation <;> simp only [opened, settlements, keys, uncorrelated]

omit [DecidableEq σ] in
theorem Balanced.active_nonneg (balanced : state.Balanced) : 0 ≤ state.counters.active := by
  have := balanced.total
  have := balanced.nonnegative
  omega

/-- The gauge is zero when nothing is open. -/
theorem Balanced.active_eq_zero
    (balanced : state.Balanced) (none : ∀ which, state.opened which = 0) :
    state.counters.active = 0 := by
  have settlements : state.activeSettlements = ∅ := by
    refine Finset.eq_empty_of_forall_notMem fun identity member => ?_
    simpa [opened, member] using none (.settlement identity)
  have keys : state.activeByKey = 0 := by
    refine Multiset.eq_zero_of_forall_notMem fun key member => ?_
    have named : key ≠ "" := fun empty => balanced.named (empty ▸ member)
    exact Multiset.count_ne_zero.mpr member (by
      simpa [opened, named] using none (.key key))
  have uncorrelated := none (.key "")
  have nonnegative := balanced.nonnegative
  have total := balanced.total
  simp only [opened, if_true] at uncorrelated
  simp only [settlements, keys, Finset.card_empty, Multiset.card_zero] at total
  omega

omit [DecidableEq σ] in
/-- Dropping one execution from a place takes one off the gauge. -/
theorem dropActive_eq (positive : 0 < state.counters.active) :
    state.dropActive = state.addActive (-1) := if_pos positive

/-- The open executions after an event that starts or terminates one. -/
def Moves (state next : CollectorQueueState σ)
    (started terminated : Option (Correlation σ)) : Prop :=
  next.Balanced ∧ ∀ which, next.opened which = if started = some which then
      match which with
      | .settlement _ => 1
      | .key _ => state.opened which + 1
    else if terminated = some which then state.opened which - 1
    else state.opened which

theorem SameActive.moves (same : SameActive state next) (balanced : state.Balanced) :
    Moves state next none none :=
  ⟨same.balanced balanced, fun which => congrFun same.opened_eq which⟩

theorem Moves.after (moves : Moves state next started terminated)
    (same : SameActive next final) : Moves state final started terminated := by
  refine ⟨same.balanced moves.1, fun which => ?_⟩
  rw [same.opened_eq]
  exact moves.2 which

theorem Moves.before (moves : Moves state next started terminated)
    (same : SameActive first state) : Moves first next started terminated := by
  refine ⟨moves.1, fun which => ?_⟩
  rw [← same.opened_eq]
  exact moves.2 which

omit [DecidableEq σ] in
theorem sameActive_prune (now : Int) : SameActive state (state.pruneThroughputLocked now) :=
  ⟨rfl, rfl, rfl, rfl⟩

omit [DecidableEq σ] in
theorem sameActive_recordWait (key : String) : SameActive state (state.recordWait key now) := by
  unfold recordWait
  split
  · exact ⟨rfl, rfl, rfl, rfl⟩
  · split
    · exact ⟨rfl, rfl, rfl, rfl⟩
    · dsimp only
      split <;> exact ⟨rfl, rfl, rfl, rfl⟩

/-- Opening an execution adds it under its correlation. -/
theorem openActive_moves (balanced : state.Balanced) :
    Moves state (state.openActive settlement event) (some (correlation settlement event)) none := by
  obtain ⟨total, nonnegative, named⟩ := balanced
  cases settlement with
  | some identity =>
    by_cases already : identity ∈ state.activeSettlements
    · simp only [openActive, if_pos already]
      refine ⟨⟨total, nonnegative, named⟩, fun which => ?_⟩
      cases which with
      | settlement other =>
        simp only [opened, correlation]
        grind
      | key key => rfl
    · simp only [openActive, if_neg already]
      refine ⟨⟨?_, nonnegative, named⟩, fun which => ?_⟩
      · simp only [addActive, Finset.card_insert_of_notMem already]
        push_cast
        omega
      · cases which <;> simp [opened, correlation, addActive, eq_comm]
        grind
  | none =>
    simp only [openActive]
    split
    · rename_i filled
      refine ⟨⟨?_, nonnegative, ?_⟩, fun which => ?_⟩
      · simp only [addActive, Multiset.card_cons]
        push_cast
        omega
      · simp [addActive, named, Ne.symm filled]
      · cases which with
        | settlement identity => rfl
        | key key =>
          simp only [opened, correlation, addActive, Multiset.count_cons]
          grind
    · rename_i empty
      refine ⟨⟨?_, ?_, named⟩, fun which => ?_⟩
      · simp only [addActive]
        omega
      · simp only [addActive]
        omega
      · cases which with
        | settlement identity => rfl
        | key key =>
          simp only [opened, correlation, addActive]
          grind

/-- Closing takes one execution off its own correlation, or finds none. -/
theorem closeActive_moves (balanced : state.Balanced) :
    Moves state ((state.closeActive settlement event).getD state)
      none (some (correlation settlement event)) := by
  obtain ⟨total, nonnegative, named⟩ := balanced
  cases settlement with
  | some identity =>
    by_cases already : identity ∈ state.activeSettlements
    · have card := Finset.card_erase_add_one already
      simp only [closeActive, removeSettlement, if_pos already, Option.map_some, Option.getD_some]
      rw [dropActive_eq (by simp only; omega)]
      refine ⟨⟨?_, nonnegative, named⟩, fun which => ?_⟩
      · simp only [addActive]
        omega
      · cases which <;> simp [opened, correlation, addActive]
        grind
    · simp only [closeActive, removeSettlement, if_neg already]
      refine ⟨⟨total, nonnegative, named⟩, fun which => ?_⟩
      cases which with
      | settlement other =>
        simp only [opened, correlation, Option.map_none, Option.getD_none]
        grind
      | key key => rfl
  | none =>
    simp only [closeActive, closeByKey]
    split
    · rename_i uncorrelated
      rw [Option.getD_some, dropActive_eq (by simp only; omega)]
      refine ⟨⟨?_, ?_, named⟩, fun which => ?_⟩
      · simp only [addActive]
        omega
      · simp only [addActive]
        omega
      · cases which with
        | settlement identity => rfl
        | key key =>
          simp only [opened, correlation, addActive]
          grind
    · split
      · rename_i keyed
        have member := Multiset.count_pos.mp keyed.2
        have card := Multiset.card_erase_add_one member
        rw [Option.getD_some, dropActive_eq (by simp only; omega)]
        refine ⟨⟨?_, nonnegative, fun inside => named
          (Multiset.mem_of_mem_erase inside)⟩, fun which => ?_⟩
        · simp only [addActive]
          omega
        · cases which with
          | settlement identity => rfl
          | key key =>
            simp only [opened, correlation, addActive]
            grind [Multiset.count_erase_self, Multiset.count_erase_of_ne]
      · refine ⟨⟨total, nonnegative, named⟩, fun which => ?_⟩
        cases which with
        | settlement other => rfl
        | key key =>
          simp only [opened, correlation, Option.getD_none]
          grind

/-- One event starts or terminates at most its own execution. -/
theorem observe_moves (balanced : state.Balanced) (observation : Observation σ) :
    Moves state (state.observe observation.settlement observation.event now)
      observation.started observation.terminated := by
  obtain ⟨settlement, event, clock⟩ := observation
  cases kind : event.kind
  all_goals
    simp only [Observation.started, Observation.terminated, observe, kind]
    refine Moves.after ?_ (sameActive_prune now)
  case processStarted =>
    refine Moves.after ?_ (sameActive_recordWait event.jobKey)
    refine Moves.before (openActive_moves ?_) ⟨rfl, rfl, rfl, rfl⟩
    exact ⟨balanced.total, balanced.nonnegative, balanced.named⟩
  case processSucceeded | processFailed =>
    exact (closeActive_moves balanced).after ⟨rfl, rfl, rfl, rfl⟩
  case settlementFailed =>
    cases settlement with
    | none => exact SameActive.moves ⟨rfl, rfl, rfl, rfl⟩ balanced
    | some identity => exact @closeActive_moves σ _ state (some identity) event balanced
  all_goals exact SameActive.moves ⟨rfl, rfl, rfl, rfl⟩ balanced

/-- A terminal event with a settlement identity is that identity's closing. -/
theorem observe_of_terminated {observation : Observation σ} {identity : σ}
    (terminal : observation.terminated = some (.settlement identity)) (now : Int) :
    observation.settlement = some identity ∧ SameActive
        ((state.closeActive (some identity) observation.event).getD state)
        (state.observe observation.settlement observation.event now) := by
  obtain ⟨settlement, event, clock⟩ := observation
  simp only [Observation.terminated] at terminal
  split at terminal <;> rename_i kind
  case h_4 => cases terminal
  all_goals
    cases settlement <;> simp only [correlation, Option.map_some, Option.map_none, reduceCtorEq,
      Option.some.injEq, Correlation.settlement.injEq] at terminal
    subst terminal
    simp only [observe, kind]
    exact ⟨trivial, rfl, rfl, rfl, rfl⟩

end CollectorQueueState

namespace StatsCollector

variable {σ : Type} [DecidableEq σ]

/-- Every start in a queue has a later terminal event of that queue with the same
correlation; starts without settlement identity have one each. -/
def StartsTerminated (queue : String) (observations : List (Observation σ)) : Prop :=
  ∃ answer : Nat -> Nat, (∀ index start which, observations[index]? = some start ->
      start.queue = queue -> start.started = some which ->
      index < answer index ∧ ∃ terminal, observations[answer index]? = some terminal ∧
          terminal.queue = queue ∧ terminal.terminated = some which) ∧
    ∀ first second key, first ≠ second ->
      (∃ start, observations[first]? = some start ∧ start.queue = queue ∧
        start.started = some (.key key)) ->
      (∃ start, observations[second]? = some start ∧ start.queue = queue ∧
        start.started = some (.key key)) ->
      answer first ≠ answer second

variable {collector : StatsCollector σ} {observations : List (Observation σ)}

/-- One event keeps every queue balanced and moves only its own. -/
theorem observe_moves (balanced : ∀ queue, (collector queue).Balanced)
    (observation : Observation σ) (queue : String) :
    CollectorQueueState.Moves (collector queue) (collector.observe observation queue)
      (if observation.queue = queue then observation.started else none)
      (if observation.queue = queue then observation.terminated else none) := by
  by_cases about : observation.queue = queue
  · subst about
    rw [if_pos rfl, if_pos rfl, observe, Function.update_self]
    exact CollectorQueueState.observe_moves (balanced _) observation
  · rw [if_neg about, if_neg about, observe, Function.update_of_ne (Ne.symm about)]
    exact CollectorQueueState.SameActive.moves ⟨rfl, rfl, rfl, rfl⟩ (balanced queue)

theorem balanced_foldl (balanced : ∀ queue, (collector queue).Balanced) (queue : String) :
    (observations.foldl observe collector queue).Balanced := by
  induction observations generalizing collector with
  | nil => exact balanced queue
  | cons observation rest ih =>
    exact ih fun other =>
      (observe_moves balanced observation other).1

omit [DecidableEq σ] in
theorem balanced_new (queue : String) : ((newStatsCollector : StatsCollector σ) queue).Balanced :=
  ⟨rfl, le_rfl, Multiset.notMem_zero _⟩

/-- An event that starts an execution of a queue under a correlation. -/
def starts (queue : String) (which : Correlation σ) (observation : Observation σ) : Bool :=
  observation.queue = queue ∧ observation.started = some which

/-- An event that terminates an execution of a queue under a correlation. -/
def terminates (queue : String) (which : Correlation σ) (observation : Observation σ) : Bool :=
  observation.queue = queue ∧ observation.terminated = some which

theorem terminates_of_starts (observation : Observation σ)
    (start : starts queue which observation = true) :
    terminates queue which observation = false := by
  have kind : observation.started = some which := by
    simpa [starts] using (of_decide_eq_true start).2
  simp only [Observation.started] at kind
  split at kind
  · rename_i isStart
    simp [terminates, Observation.terminated, isStart]
  · cases kind

/-- The execution open under a settlement identity follows a latch. -/
theorem opened_settlement_observe (balanced : ∀ queue, (collector queue).Balanced)
    (observation : Observation σ) :
    decide (identity ∈ (collector.observe observation queue).activeSettlements) =
      Gauge.latch (starts queue (.settlement identity)) (terminates queue (.settlement identity))
        (decide (identity ∈ (collector queue).activeSettlements))
        observation := by
  have moved := (observe_moves balanced observation queue).2 (.settlement identity)
  simp only [CollectorQueueState.opened] at moved
  by_cases about : observation.queue = queue <;> simp only [about, if_true, if_false] at moved <;>
    simp only [Gauge.latch, starts, terminates, about] <;> grind

/-- What one event does to a queue, folded over a sequence of events. -/
theorem foldl_observe_eq {β : Type} (view : CollectorQueueState σ -> β)
    (change : β -> Observation σ -> β)
    (follows : ∀ collector : StatsCollector σ,
      (∀ other, (collector other).Balanced) -> ∀ observation,
        view (collector.observe observation queue) = change (view (collector queue)) observation)
    (observations : List (Observation σ))
    (balanced : ∀ other, (collector other).Balanced) :
    view (observations.foldl observe collector queue) =
      observations.foldl change (view (collector queue)) := by
  induction observations generalizing collector with
  | nil => rfl
  | cons observation rest ih =>
    rw [List.foldl_cons, List.foldl_cons, ← follows collector balanced]
    exact ih fun other =>
      (observe_moves balanced observation other).1

theorem StartsTerminated.answers
    (answered : ∀ index start which, observations[index]? = some start ->
      start.queue = queue -> start.started = some which ->
      index < answer index ∧ ∃ terminal, observations[answer index]? = some terminal ∧
          terminal.queue = queue ∧ terminal.terminated = some which)
    (which : Correlation σ) :
    Gauge.Answers (starts queue which) (terminates queue which) observations answer := by
  intro index start found starting
  obtain ⟨about, opens⟩ := of_decide_eq_true starting
  obtain ⟨later, terminal, at_, same, closes⟩ := answered index start which found about opens
  exact ⟨later, terminal, at_, decide_eq_true ⟨same, closes⟩⟩

/-- Every execution is closed at the end of a terminated sequence. -/
theorem opened_eq_zero (terminated : StartsTerminated queue observations) (which : Correlation σ) :
    (observeAll observations queue).opened which = 0 := by
  obtain ⟨answer, answered, apart⟩ := terminated
  have answers := StartsTerminated.answers answered which
  cases which with
  | key key =>
    refine (foldl_observe_eq (fun state => state.opened (.key key))
      (Gauge.step (starts queue (.key key)) (terminates queue (.key key)))
      (fun _ balanced observation => ?_) observations balanced_new).trans ?_
    · rw [(observe_moves balanced observation queue).2]
      by_cases about : observation.queue = queue <;> simp [Gauge.step, starts, terminates, about]
    have fresh : ((newStatsCollector : StatsCollector σ) queue).opened (.key key) = 0 := by
      simp [newStatsCollector, CollectorQueueState.opened]
    rw [fresh]
    refine Gauge.foldl_step_eq_zero answers (fun first second opens other
      same => ?_) terminates_of_starts
    by_contra different
    have found {index : Nat} (opening : (observations[index]?).any
        (starts queue (.key key)) = true) : ∃ start,
        observations[index]? = some start ∧ start.queue = queue ∧
          start.started = some (.key key) := by
      obtain ⟨start, at_, starting⟩ := (Option.any_eq_true _ _).mp opening
      exact ⟨start, at_, of_decide_eq_true starting⟩
    exact apart first second key different (found opens) (found other) same
  | settlement identity =>
    have reset := (foldl_observe_eq (fun state => decide (identity ∈ state.activeSettlements)) _
      (fun _ balanced observation => opened_settlement_observe balanced
        observation) observations balanced_new).trans
      (Gauge.foldl_latch_eq_false answers)
    exact if_neg (of_decide_eq_false reset)

/-- The active gauge of every queue counts its open executions. A start opens an
execution under its own correlation, an execution with a settlement identity is
closed only by a terminal event of its queue with that identity and only while open,
and the gauge is zero once all are terminated. -/
theorem active_gauge_accounting (observations : List (Observation σ)) (queue : String) :
    let state := observeAll observations queue
    state.counters.active = (state.activeSettlements.card : Int) +
        (state.activeByKey.card : Int) + state.uncorrelatedActive ∧
      0 ≤ state.counters.active ∧
      (∀ observation : Observation σ, let next := observeAll (observations ++ [observation]) queue
        (∀ which, observation.queue = queue -> observation.started = some which ->
          next.opened which = match which with
            | .settlement _ => 1
            | .key _ => state.opened which + 1) ∧
        (∀ identity ∈ state.activeSettlements, identity ∉ next.activeSettlements ->
            observation.queue = queue ∧ observation.settlement = some identity ∧
              next.counters.active = state.counters.active - 1) ∧
        (∀ identity ∉ state.activeSettlements,
          observation.terminated = some (.settlement identity) ->
            next.counters.active = state.counters.active ∧
              next.activeSettlements = state.activeSettlements ∧
              next.activeByKey = state.activeByKey ∧
              next.uncorrelatedActive = state.uncorrelatedActive) ∧
        (observation.settlement = none -> state.activeSettlements ⊆ next.activeSettlements)) ∧
      (StartsTerminated queue observations -> state.counters.active = 0) := by
  have balanced : ∀ queue, (observeAll observations queue).Balanced :=
    fun queue => balanced_foldl balanced_new queue
  refine ⟨(balanced queue).total, (balanced queue).active_nonneg,
    fun observation => ?_, fun terminated =>
      (balanced queue).active_eq_zero (opened_eq_zero terminated)⟩
  have moved := (observe_moves balanced observation queue).2
  simp only [observeAll, List.foldl_concat] at moved balanced ⊢
  generalize observations.foldl observe newStatsCollector = collector at *
  -- a closing is a terminal event of this queue under the same correlation
  have closing (identity : σ) (before : identity ∈ (collector queue).activeSettlements)
      (after : identity ∉ (collector.observe observation queue).activeSettlements) :
      observation.queue = queue ∧ observation.terminated = some (.settlement identity) := by
    have change := moved (.settlement identity)
    simp only [CollectorQueueState.opened, if_pos before, if_neg after] at change
    by_cases about : observation.queue = queue
    · simp only [if_pos about] at change
      refine ⟨about, ?_⟩
      by_contra other
      rw [if_neg other] at change
      split at change <;> cases change
    · simp [about] at change
  have effect {identity : σ} (terminal : observation.terminated = some (.settlement identity)) :=
    @CollectorQueueState.observe_of_terminated σ _
      (collector observation.queue) observation identity terminal
      (observation.event.time.getD observation.clock)
  refine ⟨fun which about start => ?_, fun identity before after => ?_,
    fun identity absent terminal => ?_, fun anonymous identity before => ?_⟩
  · rw [moved which, if_pos about, if_pos start]
  · obtain ⟨rfl, terminal⟩ := closing identity before after
    refine ⟨rfl, (effect terminal).1, ?_⟩
    have positive : 0 < (collector observation.queue).counters.active := by
      have total := (balanced observation.queue).total
      have nonnegative := (balanced observation.queue).nonnegative
      have some := Finset.card_pos.mpr ⟨identity, before⟩
      omega
    rw [observe, Function.update_self, (effect terminal).2.1]
    simp only [CollectorQueueState.closeActive, CollectorQueueState.removeSettlement, if_pos before,
      Option.map_some, Option.getD_some]
    rw [CollectorQueueState.dropActive_eq]
    · rfl
    · exact positive
  · by_cases about : observation.queue = queue
    · subst about
      have kept := (effect terminal).2
      simp only [CollectorQueueState.closeActive,
        CollectorQueueState.removeSettlement, if_neg absent] at kept
      rw [observe, Function.update_self]
      exact kept
    · rw [observe, Function.update_of_ne (Ne.symm about)]
      exact ⟨rfl, rfl, rfl, rfl⟩
  · by_contra after
    have carried := (effect (closing identity before after).2).1
    rw [anonymous] at carried
    cases carried

/-- One execution that starts and succeeds. -/
theorem active_gauge_accounting_terminated : let start : Observation Nat :=
      { settlement := some 7, event := { kind := .processStarted } }
    let success : Observation Nat :=
      { settlement := some 7, event := { kind := .processSucceeded } }
    (observeAll [start] "default").opened (.settlement 7) = 1 ∧ StartsTerminated "default" [start,
      success] ∧ (observeAll [start, success] "default").counters.active = 0 := by
  intro start success
  have terminated : StartsTerminated "default" [start, success] := by
    refine ⟨fun index => index + 1, fun index event which found about opens => ?_,
      fun first second key different _ _ => by simpa using different⟩
    match index with
    | 0 =>
      cases found
      exact ⟨Nat.zero_lt_one, success, rfl, rfl, opens⟩
    | 1 =>
      cases found
      cases opens
    | index + 2 => cases found
  exact ⟨((active_gauge_accounting [] "default").2.2.1 start).1 _ rfl rfl, terminated,
    (active_gauge_accounting [start, success] "default").2.2.2 terminated⟩

end StatsCollector

end JobQueue.Observability
