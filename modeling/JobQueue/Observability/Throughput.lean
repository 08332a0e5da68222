import JobQueue.Observability.Collector

/-!
# Throughput windows

A snapshot counts the recorded times of each queue that lie in the last hour,
day and week. Old times are discarded only from the front of a list that need
not be sorted, with the time of the event at hand as the reference. What is
discarded is more than a week older than some event, so no snapshot taken after
every event misses it.
-/

namespace JobQueue.Observability

/-- What ended within a window. -/
structure ThroughputWindow where
  processed : Nat
  failed : Nat
  deriving DecidableEq

/-- The windows of a queue. -/
structure QueueThroughput where
  hour : ThroughputWindow
  day : ThroughputWindow
  week : ThroughputWindow
  deriving DecidableEq

/-- A snapshot of the collector. -/
structure StatsSnapshot where
  byQueue : String -> QueueCounters
  throughputByQueue : String -> QueueThroughput

/-- One hour in nanoseconds. -/
def hour : Int := 3600 * 1000000000

/-- The times from a cutoff on. -/
def countSince (times : List Int) (cutoff : Int) : Nat :=
  times.countP fun time => !decide (time < cutoff)

variable {σ : Type} [DecidableEq σ]

/-- `Snapshot` at a clock reading. -/
def StatsCollector.snapshot (collector : StatsCollector σ) (now : Int) : StatsSnapshot where
  byQueue queue := (collector queue).counters
  throughputByQueue queue :=
    let state := collector queue
    { hour :=
        { processed := countSince state.processedAt (now - hour)
          failed := countSince state.failedAt (now - hour) }
      day :=
        { processed := countSince state.processedAt (now - 24 * hour)
          failed := countSince state.failedAt (now - 24 * hour) }
      week :=
        { processed := countSince state.processedAt (now - 7 * 24 * hour)
          failed := countSince state.failedAt (now - 7 * 24 * hour) } }

/-- The time an event is recorded under. -/
def Observation.time (observation : Observation σ) : Int :=
  observation.event.time.getD observation.clock

/-- The events of a kind and a queue that are not older than a cutoff. -/
def eventsSince (kind : EventKind) (queue : String) (cutoff : Int)
    (observations : List (Observation σ)) : Nat :=
  observations.countP fun observation =>
    observation.queue = queue ∧ observation.event.kind = kind ∧ cutoff ≤ observation.time

/-- The events of a queue in a window that ends at a time. -/
def eventsWithin (queue : String) (now length : Int)
    (observations : List (Observation σ)) : ThroughputWindow where
  processed := eventsSince .processSucceeded queue (now - length) observations
  failed := eventsSince .processFailed queue (now - length) observations

/-! ### One event -/

/-- The recorded times after an event: its own time is appended, and then the
front is discarded up to the first recent time. -/
theorem times_observe (state : CollectorQueueState σ) (settlement : Option σ) (now : Int) :
    ((state.observe settlement event now).processedAt,
        (state.observe settlement event now).failedAt) =
      ((state.processedAt ++ if event.kind = .processSucceeded then [now]
          else []).dropWhile (· < now - CollectorQueueState.week),
        (state.failedAt ++ if event.kind = .processFailed then [now]
          else []).dropWhile (· < now - CollectorQueueState.week)) := by
  have closed := fun identity => congrArg Prod.snd (state.apart_closeActive identity event)
  simp only [CollectorQueueState.apart, Prod.mk.injEq] at closed
  unfold CollectorQueueState.observe CollectorQueueState.pruneThroughputLocked
  cases kind : event.kind
  case processStarted =>
    have unmoved := fun (state : CollectorQueueState σ) => congrArg Prod.snd
      ((CollectorQueueState.apart_recordWait _ event.jobKey now).trans
        (state.apart_openActive settlement event))
    simp only [CollectorQueueState.apart, Prod.mk.injEq] at unmoved
    simp [unmoved]
  case processSucceeded | processFailed =>
    simp [CollectorQueueState.recordRun, closed]
  case settlementFailed =>
    cases settlement with
    | none => simp [CollectorQueueState.closeSettlementActive]
    | some identity => simp [CollectorQueueState.closeSettlementActive, closed]
  all_goals simp

/-- Discarding times older than the cutoff from the front changes no count. -/
theorem countSince_dropWhile (times : List Int) (early : bound ≤ cutoff) :
    countSince (times.dropWhile (· < bound)) cutoff = countSince times cutoff := by
  induction times with
  | nil => rfl
  | cons time rest ih =>
    by_cases old : time < bound
    · have uncounted : time < cutoff := lt_of_lt_of_le old early
      simp only [List.dropWhile_cons, old, decide_true, if_true, ih]
      simp [countSince, uncounted]
    · simp [old]

/-! ### Every sequence of events -/

/-- A list of times that every event extends and shortens as `Observe` does
holds, for any later cutoff, the events of its kind. -/
theorem countSince_observeAll (times : CollectorQueueState σ -> List Int) (fresh : times {} = [])
    (observed : ∀ state settlement event now, times (state.observe settlement event now) =
        (times state ++ if event.kind = kind then [now] else []).dropWhile
          (· < now - CollectorQueueState.week))
    (queue : String)
    (observations : List (Observation σ))
    (late : ∀ observation ∈ observations, observation.time - CollectorQueueState.week ≤ cutoff) :
    countSince (times (StatsCollector.observeAll observations queue)) cutoff =
      eventsSince kind queue cutoff observations := by
  induction observations using List.reverseRecOn with
  | nil => exact congrArg (countSince · cutoff) fresh
  | append_singleton before observation ih =>
    have counted := ih fun earlier member =>
      late earlier (List.mem_append_left _ member)
    have extended : StatsCollector.observeAll (before ++ [observation]) =
        (StatsCollector.observeAll before).observe observation := by
      simp [StatsCollector.observeAll]
    unfold eventsSince at counted ⊢
    rw [extended, List.countP_append, ← counted]
    by_cases here : observation.queue = queue
    · subst here
      have kept := countSince_dropWhile
        (times (StatsCollector.observeAll before observation.queue) ++
          if observation.event.kind = kind then [observation.time] else [])
        (late observation (by simp))
      rw [StatsCollector.observe, Function.update_self, observed]
      refine kept.trans ?_
      by_cases same : observation.event.kind = kind
      · simp [countSince, same]
      · simp [countSince, same]
    · rw [StatsCollector.observe, Function.update_of_ne (Ne.symm here)]
      simp [here]

/-- At every time not before any observed event, each window of each queue
holds exactly the finished executions of that queue in it. -/
theorem throughput_exact (observations : List (Observation σ)) (now : Int)
    (current : ∀ observation ∈ observations, observation.time ≤ now) (queue : String) :
    ((StatsCollector.observeAll observations).snapshot now).throughputByQueue queue =
      { hour := eventsWithin queue now hour observations
        day := eventsWithin queue now (24 * hour) observations
        week := eventsWithin queue now (7 * 24 * hour) observations } := by
  have late : ∀ length ≤ CollectorQueueState.week, ∀ observation ∈ observations,
        observation.time - CollectorQueueState.week ≤ now - length :=
    fun length short observation member => by
      have := current observation member
      omega
  have window : ∀ length ≤ CollectorQueueState.week, ThroughputWindow.mk
          (countSince (StatsCollector.observeAll observations queue).processedAt (now - length))
          (countSince (StatsCollector.observeAll observations queue).failedAt (now - length)) =
        eventsWithin queue now length observations := fun length short => by
    rw [eventsWithin, ThroughputWindow.mk.injEq]
    refine ⟨countSince_observeAll (fun state => state.processedAt) rfl ?_
        queue observations (late length short),
      countSince_observeAll (fun state => state.failedAt) rfl ?_
        queue observations (late length short)⟩
    · exact fun state settlement event now =>
        congrArg Prod.fst (times_observe state settlement now)
    · exact fun state settlement event now =>
        congrArg Prod.snd (times_observe state settlement now)
  simp only [StatsCollector.snapshot, QueueThroughput.mk.injEq]
  exact ⟨window _ (by decide), window _ (by decide), window _ (by decide)⟩

/-- A success that is observed after newer events. -/
def outOfOrder : List (Observation Unit) :=
  [{ event := { kind := .processSucceeded, time := some (25 * hour) } },
    { event := { kind := .processSucceeded, time := some hour } },
    { event := { kind := .processFailed, queue := "default", time := some (24 * hour) } }]

theorem throughput_exact_out_of_order :
    ((StatsCollector.observeAll outOfOrder).snapshot (25 * hour + 1)).throughputByQueue "default" =
      { hour := ⟨1, 0⟩, day := ⟨1, 1⟩, week := ⟨2, 1⟩ } := by
  rw [throughput_exact outOfOrder (25 * hour + 1) (by decide) "default"]
  decide

end JobQueue.Observability
