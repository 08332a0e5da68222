import JobQueue.Collections.KeyedList
import JobQueue.Observability.Collector

/-!
# Sampled histories of local queues

A local queue has no history of its own: every `History` call samples the current
counters into a timeline kept by queue name, and reads the window back. The
timeline belongs to the process, so two local queues share it.
-/

namespace JobQueue.Observability

/-- The counters of a local queue. -/
structure LocalQueueMetrics where
  pending : Int := 0
  active : Int := 0
  processed : Int := 0
  failed : Int := 0
  delayed : Int := 0

/-- What a local queue knows when its statistics are asked for. -/
structure LocalStats where
  metrics : List (String × LocalQueueMetrics) := []
  pausedQueues : List String := []

/-- The queue that a name means. -/
def normalizeQueueName (name : String) : String :=
  if name = "" then "default" else name

/-- The counters of every queue in a snapshot of `Stats`. -/
def LocalStats.byQueue (stats : LocalStats) : List (String × QueueCounters) :=
  let used := stats.metrics.map fun entry =>
    (entry.1, { pending := entry.2.pending + entry.2.delayed
                active := entry.2.active
                processed := entry.2.processed
                failed := entry.2.failed
                paused := if entry.1 ∈ stats.pausedQueues then 1 else 0 })
  let idle := stats.pausedQueues.filter fun name =>
    (KeyedList.find name stats.metrics).isNone
  let byQueue := used ++ idle.map fun name => (name, { paused := 1 })
  if byQueue.isEmpty then [("default", {})] else byQueue

/-- The operations of a local queue that its statistics depend on. -/
inductive Operation where
  | updateQueueMetrics (name : String) (change : LocalQueueMetrics -> LocalQueueMetrics)
  | pause (name : String)
  | resume (name : String)

/-- What an operation changes. -/
def Operation.apply (stats : LocalStats) : Operation -> LocalStats
  | .updateQueueMetrics name change =>
    let current := (KeyedList.find name stats.metrics).getD {}
    { stats with metrics := (name, change current) :: KeyedList.erase name stats.metrics }
  | .pause name =>
    { stats with pausedQueues := stats.pausedQueues.insert (normalizeQueueName name) }
  | .resume name =>
    { stats with pausedQueues := stats.pausedQueues.erase (normalizeQueueName name) }

/-- A sample of a queue. -/
structure QueueHistoryPoint where
  at_ : Int
  processed : Int
  failed : Int
  deriving DecidableEq

/-- How far a history goes back. -/
inductive QueueHistoryWindow where
  | hour
  | day
  | week

/-- One second in nanoseconds. -/
def second : Int := 1000000000

/-- The length of a window. -/
def timelineDuration : QueueHistoryWindow -> Int
  | .week => 7 * 24 * 3600 * second
  | .day => 24 * 3600 * second
  | .hour => 3600 * second

/-- How long samples are kept. -/
def historyTimelineRetention : Int := 8 * 24 * 3600 * second

/-- How many samples are kept. -/
def historyTimelineMaxPoints : Nat := 30000

/-- The time between unequal samples. -/
def historyTimelineMinInterval : Int := 30 * second

/-- The points kept for every queue name. -/
abbrev HistoryTimeline := String -> List QueueHistoryPoint

/-- One round of the sampling loop. -/
def record (now : Int) (timeline : HistoryTimeline)
    (entry : String × QueueCounters) : HistoryTimeline :=
  let (name, counters) := entry
  let points := timeline name
  let point : QueueHistoryPoint := ⟨now, counters.processed, counters.failed⟩
  if name = "" ∨ points.getLast?.any (fun last =>
      last.processed = point.processed ∧ last.failed = point.failed ∧
        now - last.at_ < historyTimelineMinInterval) = true then timeline
  else
    let points := (points ++ [point]).dropWhile (·.at_ < now - historyTimelineRetention)
    Function.update timeline name (points.drop (points.length - historyTimelineMaxPoints))

/-- Record a snapshot, then read. -/
def recordAndRead (timeline : HistoryTimeline) (byQueue : List (String × QueueCounters))
    (queueName : String) (window : QueueHistoryWindow) (now : Int) :
    HistoryTimeline × List QueueHistoryPoint :=
  let timeline := byQueue.foldl (record now) timeline
  (timeline, if queueName = "" then [] else (timeline queueName).filter
    (now - timelineDuration window ≤ ·.at_))

/-- A history of the present alone. -/
def singlePointHistory (byQueue : List (String × QueueCounters))
    (queueName : String) (now : Int) : List QueueHistoryPoint :=
  match KeyedList.find (normalizeQueueName queueName) byQueue with
  | none => []
  | some counters => [⟨now, counters.processed, counters.failed⟩]

/-- `History`, with the clock readings of the sample and of the fallback. -/
def history (stats : LocalStats) (timeline : HistoryTimeline)
    (queueName : String) (window : QueueHistoryWindow) (now later : Int) :
    HistoryTimeline × List QueueHistoryPoint :=
  let (timeline, points) := recordAndRead timeline stats.byQueue
    (normalizeQueueName queueName) window now
  (timeline, if points.isEmpty then
    singlePointHistory stats.byQueue queueName later else points)

/-! ### Two runtimes in one process -/

/-- Two runtimes of one process. -/
inductive Runtime where
  | a
  | b
  deriving DecidableEq

/-- A call on one of the runtimes. -/
inductive RuntimeCall where
  | operate (runtime : Runtime) (operation : Operation)
  | history (runtime : Runtime) (queueName : String) (window : QueueHistoryWindow) (now later : Int)

/-- The runtime that is called. -/
def RuntimeCall.runtime : RuntimeCall -> Runtime
  | .operate runtime _ => runtime
  | .history runtime _ _ _ _ => runtime

/-- The state of both runtimes and the timeline they share. -/
structure Process where
  stats : Runtime -> LocalStats := fun _ => {}
  timeline : HistoryTimeline := fun _ => []

/-- One call: the process after it and the points it returns. -/
def Process.call (process : Process) : RuntimeCall -> Process × List QueueHistoryPoint
  | .operate runtime operation =>
    let stats := operation.apply (process.stats runtime)
    ({ process with stats := Function.update process.stats runtime stats }, [])
  | .history runtime queueName window now later =>
    let (timeline, points) := Observability.history (process.stats runtime)
      process.timeline queueName window now later
    ({ process with timeline := timeline }, points)

/-- What the calls on the first runtime return. -/
def answers : Process -> List RuntimeCall -> List (List QueueHistoryPoint)
  | _, [] => []
  | process, call :: calls =>
    let rest := answers (process.call call).1 calls
    if call.runtime = .a then (process.call call).2 :: rest else rest

/-- The queue names whose history is asked of the first runtime. -/
def queried (calls : List RuntimeCall) : List String :=
  calls.filterMap fun
    | .history .a queueName _ _ _ => some (normalizeQueueName queueName)
    | _ => none

/-- The second runtime samples none of the given names. -/
def Avoids (names : List String) : Process -> List RuntimeCall -> Prop
  | _, [] => True
  | process, call :: calls =>
    (match call with
      | .history .b _ _ _ _ => ∀ entry ∈ (process.stats .b).byQueue, entry.1 ∉ names
      | _ => True) ∧ Avoids names (process.call call).1 calls

theorem record_of_ne (different : entry.1 ≠ name) :
    record now timeline entry name = timeline name := by
  unfold record
  dsimp only
  split
  · rfl
  · exact Function.update_of_ne (Ne.symm different) ..

/-- Sampling keeps the points of a name it does not meet. -/
theorem foldl_record_of_ne {byQueue : List (String × QueueCounters)}
    (absent : ∀ entry ∈ byQueue, entry.1 ≠ name) :
    byQueue.foldl (record now) timeline name = timeline name := by
  induction byQueue generalizing timeline with
  | nil => rfl
  | cons entry rest ih =>
    rw [List.foldl_cons, ih fun other member =>
      absent other (List.mem_cons_of_mem _ member)]
    exact record_of_ne (absent entry (List.mem_cons_self ..))

/-- Sampling at a name depends on the points of that name only. -/
theorem foldl_record_congr {second : HistoryTimeline} (byQueue : List (String × QueueCounters))
    (same : first name = second name) :
    byQueue.foldl (record now) first name = byQueue.foldl (record now) second name := by
  induction byQueue generalizing first second with
  | nil => exact same
  | cons entry rest ih =>
    refine ih ?_
    by_cases this : entry.1 = name
    · subst this
      simp only [record, same]
      split
      · exact same
      · rw [Function.update_self, Function.update_self]
    · rw [record_of_ne this, record_of_ne this, same]

/-- `History` returns what the points of its own queue name determine. -/
theorem history_congr {second : HistoryTimeline}
    (same : first (normalizeQueueName queueName) = second (normalizeQueueName queueName))
    (later : Int) :
    (history stats first queueName window now later).2 =
      (history stats second queueName window now later).2 := by
  have read : (recordAndRead first stats.byQueue (normalizeQueueName queueName)
      window now).2 = (recordAndRead second stats.byQueue
        (normalizeQueueName queueName) window now).2 := by
    simp only [recordAndRead, foldl_record_congr _ same]
  simp only [history]
  rw [read]

/-- The first runtime answers as if the second made no call. -/
theorem answers_filter (asked : ∀ name ∈ queried calls, name ∈ names)
    (avoids : Avoids names process calls) (stats : process.stats .a = alone.stats .a)
    (timeline : ∀ name ∈ names, process.timeline name = alone.timeline name) :
    answers process calls = answers alone (calls.filter (·.runtime = .a)) := by
  induction calls generalizing process alone with
  | nil => rfl
  | cons call calls ih =>
    have later (name : String) (member : name ∈ queried calls) :
        name ∈ names := asked name (by
      unfold queried at member ⊢
      rw [List.filterMap_cons]
      split
      · exact member
      · exact List.mem_cons_of_mem _ member)
    cases call with
    | operate runtime operation =>
      cases runtime with
      | a =>
        simp only [answers, RuntimeCall.runtime, decide_true, List.filter_cons_of_pos, if_true]
        refine congrArg _ (ih later avoids.2 ?_ timeline)
        simp only [Process.call, Function.update_self, stats]
      | b => exact ih later avoids.2 stats timeline
    | history runtime queueName window now later' =>
      cases runtime with
      | a =>
        have here := asked (normalizeQueueName queueName) (List.mem_cons_self ..)
        have read := timeline _ here
        simp only [answers, RuntimeCall.runtime, decide_true, List.filter_cons_of_pos, if_true]
        refine congrArg₂ _ ?_ (ih later avoids.2 stats fun name member => ?_)
        · simp only [Process.call, stats, history_congr read]
        · simp only [Process.call, Observability.history, recordAndRead,
            stats, foldl_record_congr _ (timeline name member)]
      | b =>
        refine ih later avoids.2 stats
          fun name member => (foldl_record_of_ne (fun entry inside same =>
            avoids.1 entry inside (same ▸ member))).trans (timeline name member)

/-- Two executions with the same calls on the first runtime get the same histories
from it, as long as the second runtime never samples a queue name whose history is
asked of the first. -/
theorem histories_separate (first second : List RuntimeCall)
    (same : first.filter (·.runtime = .a) = second.filter (·.runtime = .a))
    (firstAvoids : Avoids (queried first) {} first)
    (secondAvoids : Avoids (queried second) {} second) :
    answers {} first = answers {} second := by
  rw [answers_filter (fun _ member => member) firstAvoids rfl fun _ _ => rfl,
    answers_filter (fun _ member => member) secondAvoids rfl fun _ _ => rfl, same]

/-- The first runtime returns a point with a job it never processed. -/
theorem history_of_another_runtime :
    answers {} [.history .a "default" .hour 0 0] = [[⟨0, 0, 0⟩]] ∧
      answers {} [.operate .b (.updateQueueMetrics "default"
          fun metrics => { metrics with processed := 1 }),
        .history .b "default" .hour 0 0, .history .a "default" .hour 0 0] =
        [[⟨0, 1, 0⟩, ⟨0, 0, 0⟩]] := by
  decide +kernel

theorem histories_separate_names :
    answers {} [.history .a "default" .hour 0 0] = answers {} [.operate .b (.pause "mail"),
      .history .b "mail" .hour 0 0, .history .a "default" .hour 0 0] :=
  histories_separate _ _ rfl ⟨trivial, trivial⟩ ⟨trivial, by decide +kernel, trivial, trivial⟩

end JobQueue.Observability
