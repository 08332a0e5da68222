import JobQueue.Machines.Replay
import JobQueue.Observability.Timeline
import Mathlib.Data.Finset.Order
import Mathlib.Data.List.Chain

/-!
# Sampling one timeline

Samples are taken at times that never go back. The points kept for a queue are
then in order and bounded in number, and they repeat the same counters only
after the minimum interval. A sampled queue that is asked for is answered with
its newest counters, whether the sample was recorded or coalesced.
-/

namespace JobQueue.Observability

/-- One call of `recordAndRead`: the counters in the order in which the map is
ranged over, and the clock that is read when the given time is zero. -/
structure Sample where
  byQueue : List (String × QueueCounters)
  distinct : (byQueue.map Prod.fst).Nodup
  queueName : String
  window : QueueHistoryWindow
  now : Int
  clock : Int

namespace Sample

/-- The time at which a sample is taken. -/
def time (sample : Sample) : Int :=
  if sample.now = 0 then sample.clock else sample.now

/-- The timeline after the call and the points it returns. -/
def call (timeline : HistoryTimeline) (sample : Sample) :
    HistoryTimeline × List QueueHistoryPoint :=
  recordAndRead timeline sample.byQueue sample.queueName sample.window sample.time

/-- The timeline after a sequence of calls. -/
def timeline (samples : List Sample) : HistoryTimeline :=
  Replay.run (fun timeline sample => (sample.call timeline).1) (fun _ => []) samples

end Sample

/-- Two consecutive points differ in their counters or lie the minimum interval
apart. -/
def Spaced (earlier later : QueueHistoryPoint) : Prop :=
  earlier.processed = later.processed -> earlier.failed = later.failed ->
    historyTimelineMinInterval ≤ later.at_ - earlier.at_

/-- What is known of the points kept for a queue. -/
structure Orderly (points : List QueueHistoryPoint) : Prop where
  sorted : points.Pairwise (·.at_ ≤ ·.at_)
  bounded : points.length ≤ historyTimelineMaxPoints
  spaced : points.IsChain Spaced

/-- The points are orderly and none of them is later than the time. -/
structure UpTo (now : Int) (points : List QueueHistoryPoint) : Prop extends Orderly points where
  past : ∀ point ∈ points, point.at_ ≤ now

/-- The newest point repeats the counters and is younger than the minimum
interval. -/
def Fresh (now : Int) (counters : QueueCounters) (points : List QueueHistoryPoint) : Prop :=
  ∃ last, points.getLast? = some last ∧ last.processed = counters.processed ∧
    last.failed = counters.failed ∧ now - last.at_ < historyTimelineMinInterval

variable {now : Int} {byQueue : List (String × QueueCounters)}

/-- A sample is passed over, or a suffix of the points that ends with the new
one is kept. -/
theorem record_cases (timeline : HistoryTimeline) (now : Int) (name : String)
    (counters : QueueCounters) :
    let point := ⟨now, counters.processed, counters.failed⟩
    record now timeline (name, counters) = timeline ∧
      (name = "" ∨ Fresh now counters (timeline name)) ∨ ∃ points,
      record now timeline (name, counters) = Function.update timeline name points ∧
      points.length ≤ historyTimelineMaxPoints ∧ points.getLast? = some point ∧
      points <:+ timeline name ++ [point] ∧
      ∀ last ∈ (timeline name).getLast?, Spaced last point := by
  intro point
  unfold record
  dsimp only
  split
  · rename_i passed
    refine .inl ⟨rfl, passed.imp_right fun coalesced => ?_⟩
    obtain ⟨last, found, same⟩ := (Option.any_eq_true _ _).mp coalesced
    exact ⟨last, found, of_decide_eq_true same⟩
  · rename_i recorded
    -- The new point is younger than the retention, so trimming stops before it.
    have young : ¬point.at_ < now - historyTimelineRetention := by
      simp only [point, historyTimelineRetention, second]
      omega
    refine .inr ⟨_, rfl, ?_, ?_, (List.drop_suffix _ _).trans (List.dropWhile_suffix _), ?_⟩
    · rw [List.length_drop]
      omega
    · rw [List.dropWhile_append, List.dropWhile_cons,
        if_neg fun held => young (of_decide_eq_true held)]
      split
      · simp [historyTimelineMaxPoints, point]
      · rw [List.getLast?_drop, if_neg, List.getLast?_concat]
        rw [List.length_append]
        simp only [historyTimelineMaxPoints, List.length_singleton]
        omega
    · intro last found processed failed
      by_contra close
      refine recorded (.inr ((Option.any_eq_true _ _).mpr ⟨last, found, ?_⟩))
      exact decide_eq_true ⟨processed, failed, Int.not_le.mp close⟩

/-- Recording one queue keeps the points of every queue orderly. -/
theorem UpTo.record (kept : ∀ name, UpTo now (timeline name)) (entry : String × QueueCounters)
    (name : String) : UpTo now (Observability.record now timeline entry name) := by
  rcases record_cases timeline now entry.1 entry.2 with
    ⟨same, _⟩ | ⟨points, same, bounded, _, suffix, spaced⟩
  · rw [same]
    exact kept name
  rw [same, Function.update_apply]
  split
  · rename_i own
    have before := own ▸ kept name
    refine ⟨⟨List.Pairwise.sublist suffix.sublist ?_, bounded, List.IsChain.suffix ?_ suffix⟩, ?_⟩
    · refine List.pairwise_append.mpr ⟨before.sorted, List.pairwise_singleton _ _, ?_⟩
      intro point listed last isLast
      rw [List.mem_singleton.mp isLast]
      exact before.past point listed
    · refine List.isChain_append.mpr ⟨before.spaced, .singleton _, ?_⟩
      rintro last found _ ⟨⟩
      exact spaced last found
    · intro point listed
      rcases List.mem_append.mp (suffix.subset listed) with earlier | isLast
      · exact before.past point earlier
      · rw [List.mem_singleton.mp isLast]
  · exact kept name

theorem UpTo.foldl_record (kept : ∀ name, UpTo now (timeline name)) (name : String) :
    UpTo now (byQueue.foldl (Observability.record now) timeline name) := by
  induction byQueue generalizing timeline with
  | nil => exact kept name
  | cons entry rest ih => exact ih (UpTo.record kept entry)

/-- Recording a named queue leaves its newest point fresh. -/
theorem fresh_record (named : name ≠ "") :
    Fresh now counters (record now timeline (name, counters) name) := by
  rcases record_cases timeline now name counters with ⟨same, passed⟩ | ⟨points, same, _, last, _⟩
  · rw [same]
    exact passed.resolve_left named
  · rw [same, Function.update_self]
    exact ⟨_, last, rfl, rfl, by simp [historyTimelineMinInterval, second]⟩

/-- A queue of the snapshot is fresh after the loop, since no other entry has
its name. -/
theorem fresh_foldl_record (distinct : (byQueue.map Prod.fst).Nodup) (named : name ≠ "")
    (listed : (name, counters) ∈ byQueue) :
    Fresh now counters (byQueue.foldl (record now) timeline name) := by
  induction byQueue generalizing timeline with
  | nil => cases listed
  | cons entry rest ih =>
    obtain ⟨absent, distinct⟩ := List.nodup_cons.mp distinct
    rcases List.mem_cons.mp listed with rfl | later
    · rw [List.foldl_cons, foldl_record_of_ne]
      · exact fresh_record named
      · intro other member same
        exact absent (List.mem_map.mpr ⟨other, member, same⟩)
    · exact ih distinct later

/-- The points of every queue after samples that are not later than the given
time. -/
theorem Sample.timeline_upTo (ordered : samples.Pairwise (·.time ≤ ·.time))
    (reached : ∀ sample ∈ samples, sample.time ≤ now) (name : String) :
    UpTo now (Sample.timeline samples name) := by
  induction samples using List.reverseRecOn generalizing now name with
  | nil => exact ⟨⟨.nil, Nat.zero_le _, .nil⟩, nofun⟩
  | append_singleton earlier sample ih =>
    obtain ⟨before, _, apart⟩ := List.pairwise_append.mp ordered
    have kept : UpTo sample.time (Sample.timeline (earlier ++ [sample]) name) := by
      rw [Sample.timeline, Replay.run_append]
      exact UpTo.foldl_record (ih before fun other listed =>
        apart other listed sample List.mem_cons_self) name
    exact ⟨kept.toOrderly, fun point listed => Int.le_trans
      (kept.past point listed) (reached sample (by simp))⟩

/-- The window ends with the newest point of a fresh queue. -/
theorem Fresh.read (fresh : Fresh now counters points) (past : ∀ point ∈ points, point.at_ ≤ now)
    (window : QueueHistoryWindow) :
    ∃ last, (points.filter (now - timelineDuration window ≤ ·.at_)).getLast? = some last ∧
      last.processed = counters.processed ∧ last.failed = counters.failed := by
  obtain ⟨last, found, processed, failed, young⟩ := fresh
  obtain ⟨earlier, rfl⟩ := List.getLast?_eq_some_iff.mp found
  have inside : now - timelineDuration window ≤ last.at_ := by
    have notLater := past last (by simp)
    cases window <;> simp only [timelineDuration, historyTimelineMinInterval, second] at young ⊢ <;>
      omega
  refine ⟨last, ?_, processed, failed⟩
  rw [List.filter_append, List.filter_cons, if_pos (decide_eq_true inside),
    List.filter_nil, List.getLast?_concat]

/-- For every sequence of samples at times that never go back, the points of
every queue are sorted, at most 30000 and repeated only after the minimum
interval; and a sampled queue that is asked for gets a list within the window
that ends with the counters of the snapshot. -/
theorem history_timeline_sampled
    (samples : List Sample) (ordered : samples.Pairwise (·.time ≤ ·.time)) :
    (∀ name, Orderly (Sample.timeline samples name)) ∧
    ∀ earlier sample later, samples = earlier ++ sample :: later -> ∀ counters, (sample.queueName,
      counters) ∈ sample.byQueue -> sample.queueName ≠ "" ->
      let returned := (sample.call (Sample.timeline earlier)).2
      (∃ last, returned.getLast? = some last ∧
        last.processed = counters.processed ∧ last.failed = counters.failed) ∧
      ∀ point ∈ returned, sample.time - timelineDuration sample.window ≤ point.at_ ∧
          point.at_ ≤ sample.time := by
  constructor
  · intro name
    obtain ⟨bound, reached⟩ := (samples.map Sample.time).toFinset.exists_le
    exact (Sample.timeline_upTo ordered (fun sample listed =>
      reached _ (List.mem_toFinset.mpr (List.mem_map_of_mem listed))) name).toOrderly
  · rintro earlier sample later rfl counters listed named returned
    obtain ⟨before, _, apart⟩ := List.pairwise_append.mp ordered
    have kept : UpTo sample.time (sample.byQueue.foldl (record sample.time)
        (Sample.timeline earlier) sample.queueName) :=
      UpTo.foldl_record (Sample.timeline_upTo before fun other member =>
        apart other member sample List.mem_cons_self) _
    have read : returned = _ := if_neg named
    rw [read]
    refine ⟨(fresh_foldl_record sample.distinct named listed).read kept.past
      sample.window, fun point within => ?_⟩
    obtain ⟨member, inside⟩ := List.mem_filter.mp within
    exact ⟨of_decide_eq_true inside, kept.past point member⟩

/-- A sample of the default queue. -/
def defaultSample (now processed : Int) : Sample where
  byQueue := [("default", { processed := processed })]
  distinct := List.nodup_singleton _
  queueName := "default"
  window := .hour
  now := now
  clock := 0

theorem history_timeline_sampled_processed :
    ∃ last,
      ((defaultSample 2 1).call (Sample.timeline [defaultSample 1 0])).2.getLast? = some last ∧
      last.processed = 1 := by
  obtain ⟨_, read⟩ := history_timeline_sampled [defaultSample 1 0, defaultSample 2 1] (by decide)
  obtain ⟨⟨last, found, processed, _⟩, _⟩ := read [defaultSample 1 0]
    (defaultSample 2 1) [] rfl _ List.mem_cons_self (by decide)
  exact ⟨last, found, processed⟩

end JobQueue.Observability
