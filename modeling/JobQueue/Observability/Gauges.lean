import JobQueue.Observability.Collector

/-!
# The pending and scheduled gauges

The event stream of one queue: every job is accepted once and then started and
finished once per attempt, with the events the dispatcher and the wrapped handler
emit. `Pending` and `Scheduled` are compared with the jobs that wait for their
first attempt.
-/

namespace JobQueue.Observability

/-- The drivers, by how their workers obtain the job they deliver. -/
inductive Driver where
  | sync
  | workerpool
  | database
  | redis
  | rabbitmq
  | sqs
  | nats
  deriving DecidableEq

/-- The parts of a job that reach its events. -/
structure Job where
  queueName : String := ""
  delay : Int := 0
  attempt : Int := 0
  jobKey : String := ""
  dispatchID : String := ""
  jobID : String := ""

/-- The job at another attempt. -/
def Job.withAttempt (job : Job) (attempt : Int) : Job :=
  { job with attempt := attempt }

/-- A job rebuilt from its stored form; the stored form has no delay. -/
def databaseDeliveryJob (job : Job) (attempt : Int) : Job :=
  { job with delay := 0, attempt := attempt }

/-- The job a worker of a driver hands to the wrapped handler. Local workers keep
the dispatched job; the others rebuild it in the same way as the database. -/
def deliveryJob (driver : Driver) (job : Job) (attempt : Int) : Job :=
  match driver with
  | .sync | .workerpool => job.withAttempt attempt
  | .database | .redis | .rabbitmq | .sqs | .nats => databaseDeliveryJob job attempt

/-- The queue of a job. -/
def jobQueueName (job : Job) : String :=
  if job.queueName = "" then "default" else job.queueName

/-- The fields `observedQueue.Dispatch` and `wrapObservedHandler` put into every
event of a job. -/
def jobEvent (job : Job) (kind : EventKind) (time duration : Int) : Event where
  kind := kind
  queue := jobQueueName job
  jobKey := job.jobKey
  dispatchID := job.dispatchID
  jobID := job.jobID
  attempt := job.attempt
  scheduled := 0 < job.delay
  duration := duration
  time := some time

/-- What happens to a job, which is named by its place in the order of
acceptance. -/
inductive Fact where
  | accepted (job : Job)
  | retried (index : Nat) (attempt : Int)
  | started (index : Nat) (attempt : Int)
  | finished (index : Nat) (attempt : Int) (failed : Bool)

/-- A fact with the context and the clock of its event. -/
structure Step (σ : Type) where
  fact : Fact
  settlement : Option σ := none
  time : Int := 0
  duration : Int := 0

/-- The accepted jobs, each with whether its first attempt has started, and the
attempts that run. -/
structure Stream where
  jobs : List (Job × Bool) := []
  running : List (Nat × Int) := []

namespace Stream

variable (stream : Stream)

/-- Number of accepted jobs whose first attempt has not started. -/
def waiting : Nat := stream.jobs.countP fun entry => !entry.2

/-- Number of accepted delayed jobs whose first attempt has not started. -/
def waitingDelayed : Nat :=
  stream.jobs.countP fun entry => !entry.2 && decide (0 < entry.1.delay)

/-- The job of a delivery. -/
def jobAt (index : Nat) : Job :=
  ((stream.jobs[index]?).map Prod.fst).getD {}

/-- Facts happen to accepted jobs of the queue, and only running attempts
finish. -/
def Permits (queue : String) (stream : Stream) : Fact -> Prop
  | .accepted job => jobQueueName job = queue
  | .retried index attempt => index < stream.jobs.length ∧ 0 < attempt
  | .started index _ => index < stream.jobs.length
  | .finished index attempt _ => (index, attempt) ∈ stream.running

/-- The stream after a fact. -/
def advance : Fact -> Stream
  | .accepted job => { stream with jobs := stream.jobs ++ [(job, false)] }
  | .retried _ _ => stream
  | .started index attempt =>
    { jobs := stream.jobs.set index (stream.jobAt index, true)
      running := (index, attempt) :: stream.running }
  | .finished index attempt _ => { stream with running := stream.running.erase (index, attempt) }

/-- The event a fact is reported with. -/
def event (driver : Driver) (stream : Stream) (time duration : Int) : Fact -> Event
  | .accepted job => jobEvent job .enqueueAccepted time 0
  | .retried index attempt =>
    jobEvent (deliveryJob driver (stream.jobAt index) attempt) .processRetried time 0
  | .started index attempt =>
    jobEvent (deliveryJob driver (stream.jobAt index) attempt) .processStarted time 0
  | .finished index attempt failed =>
    jobEvent (deliveryJob driver (stream.jobAt index) attempt)
      (if failed then .processFailed else .processSucceeded) time duration

/-- A start is of a job that waits, and then tells a delayed one as scheduled, or
it happens while no job waits. -/
def Attributable (driver : Driver) (stream : Stream) : Fact -> Prop
  | .started index attempt =>
    match stream.jobs[index]? with
    | some (job, false) => 0 < job.delay -> 0 < (deliveryJob driver job attempt).delay
    | _ => stream.waiting = 0
  | _ => True

end Stream

section

variable {σ : Type} [DecidableEq σ]

/-- A stream and the collector that observes it. -/
structure Observed (σ : Type) where
  stream : Stream := {}
  collector : StatsCollector σ := StatsCollector.newStatsCollector

/-- Observe one more fact. -/
def Observed.next (driver : Driver) (observed : Observed σ) (step : Step σ) : Observed σ where
  stream := observed.stream.advance step.fact
  collector := observed.collector.observe {
    settlement := step.settlement
    event := observed.stream.event driver step.time step.duration step.fact }

/-- The stream and the collector after a number of steps. -/
def after (driver : Driver) (steps : List (Step σ)) (count : Nat) : Observed σ :=
  (steps.take count).foldl (Observed.next driver) {}

/-- Every step is permitted where it happens. -/
def Valid (driver : Driver) (queue : String) (steps : List (Step σ)) : Prop :=
  ∀ count step, steps[count]? = some step ->
    (after driver steps count).stream.Permits queue step.fact

/-- The gauges of a queue are the numbers of jobs they stand for. -/
def Observed.Meant (queue : String) (observed : Observed σ) : Prop :=
  (observed.collector queue).counters.pending = observed.stream.waiting ∧
    (observed.collector queue).counters.scheduled = observed.stream.waitingDelayed

/-! ### What an event does to the gauges -/

/-- The two gauges of a queue. -/
def CollectorQueueState.gauges (state : CollectorQueueState σ) : Int × Int :=
  (state.counters.pending, state.counters.scheduled)

/-- The gauges after an event of a job. -/
theorem gauges_observe (state : CollectorQueueState σ) :
    (state.observe settlement event now).gauges = match event.kind with
      | .enqueueAccepted =>
        (state.counters.pending + 1, if event.scheduled then
          state.counters.scheduled + 1 else state.counters.scheduled)
      | .processStarted =>
        (if 0 < state.counters.pending then state.counters.pending - 1
          else state.counters.pending,
          if 0 < state.counters.scheduled ∧ event.scheduled = true then
            state.counters.scheduled - 1 else state.counters.scheduled)
      | _ => state.gauges := by
  unfold CollectorQueueState.observe
  cases event.kind
  case processStarted =>
    exact congrArg Prod.fst ((CollectorQueueState.apart_recordWait _ _ _).trans
      (CollectorQueueState.apart_openActive _ _ _))
  case processSucceeded | processFailed =>
    exact congrArg Prod.fst (state.apart_closeActive settlement event)
  case settlementFailed =>
    cases settlement with
    | none => rfl
    | some identity => exact congrArg Prod.fst (state.apart_closeActive (some identity) event)
  all_goals rfl

/-- Every accepted job is one of the queue. -/
def Stream.Named (queue : String) (stream : Stream) : Prop :=
  ∀ entry ∈ stream.jobs, jobQueueName entry.1 = queue

theorem jobQueueName_deliveryJob :
    jobQueueName (deliveryJob driver job attempt) = jobQueueName job := by
  cases driver <;> rfl

variable {stream : Stream} {driver : Driver} {observed : Observed σ} {steps : List (Step σ)}

theorem Stream.Named.jobAt (named : stream.Named queue) (inside : index < stream.jobs.length) :
    jobQueueName (stream.jobAt index) = queue := by
  have found := named _ (List.getElem_mem inside)
  simpa [Stream.jobAt, List.getElem?_eq_getElem inside] using found

/-- A permitted fact is reported under the queue and keeps the jobs in it. -/
theorem Stream.Named.advance (named : stream.Named queue)
    (known : ∀ pair ∈ stream.running, pair.1 < stream.jobs.length)
    (permitted : stream.Permits queue fact) (driver : Driver) (time duration : Int) :
    (stream.event driver time duration fact).queue = queue ∧ (stream.advance fact).Named queue ∧
      ∀ pair ∈ (stream.advance fact).running, pair.1 < (stream.advance fact).jobs.length := by
  cases fact with
  | accepted job =>
    refine ⟨permitted, ?_, fun pair member => ?_⟩
    · intro entry member
      rcases List.mem_append.mp member with old | new
      · exact named entry old
      · rw [List.mem_singleton.mp new]
        exact permitted
    · exact (known pair member).trans_le (by simp [Stream.advance])
  | retried index attempt =>
    exact ⟨jobQueueName_deliveryJob.trans (named.jobAt permitted.1), named, known⟩
  | started index attempt =>
    refine ⟨jobQueueName_deliveryJob.trans (named.jobAt permitted),
      fun entry member => ?_, fun pair member => ?_⟩
    · rcases List.mem_or_eq_of_mem_set member with old | new
      · exact named entry old
      · rw [new]
        exact named.jobAt permitted
    · simp only [Stream.advance, List.length_set] at member ⊢
      rcases List.mem_cons.mp member with new | old
      · rw [new]
        exact permitted
      · exact known pair old
  | finished index attempt failed =>
    exact ⟨jobQueueName_deliveryJob.trans
      (named.jobAt (known _ permitted)), named, fun pair member =>
        known pair (List.mem_of_mem_erase member)⟩

theorem jobQueueName_ne_empty : jobQueueName job ≠ "" := by
  unfold jobQueueName
  split
  · decide
  · assumption

theorem delay_of_delivery (delayed : 0 < (deliveryJob driver job attempt).delay) :
    0 < job.delay := by
  cases driver <;> first | exact delayed | exact absurd delayed (lt_irrefl 0)

theorem Stream.waitingDelayed_le (stream : Stream) : stream.waitingDelayed ≤ stream.waiting :=
  List.countP_mono_left fun _ _ both => (Bool.and_eq_true_iff.mp both).1

/-- Both numbers after the start of a job. -/
theorem Stream.waiting_started (found : stream.jobs[index]? = some (job, begun)) (attempt : Int) :
    (stream.advance (.started index attempt)).waiting + (!begun).toNat = stream.waiting ∧
      (stream.advance (.started index attempt)).waitingDelayed +
          (!begun && decide (0 < job.delay)).toNat = stream.waitingDelayed := by
  obtain ⟨inside, same⟩ := List.getElem?_eq_some_iff.mp found
  have counted (test : Job × Bool -> Bool) (gone : test (stream.jobAt index, true) = false) :
      (stream.jobs.set index (stream.jobAt index, true)).countP test +
        (test (job, begun)).toNat = stream.jobs.countP test := by
    have some := List.countP_pos_iff (p := test) (l := stream.jobs)
    rw [List.countP_set inside, same, gone]
    cases held : test (job, begun) with
    | false => simp
    | true =>
      have := some.mpr ⟨_, List.getElem_mem inside, by rw [same]; exact held⟩
      simp only [if_true, Bool.false_eq_true, if_false, Bool.toNat_true]
      omega
  exact ⟨counted _ rfl, counted _ rfl⟩

/-- The gauges after a step that is reported under the queue. -/
theorem Observed.gauges_next (observed : Observed σ)
    (about : (observed.stream.event driver time duration fact).queue = queue) :
    ((observed.next driver ⟨fact, settlement, time, duration⟩).collector queue).gauges =
      ((observed.collector queue).observe settlement
        (observed.stream.event driver time duration fact) time).gauges := by
  have filled : queue ≠ "" := by
    rw [← about]
    cases fact <;> exact jobQueueName_ne_empty
  have timed : (observed.stream.event driver time duration fact).time = some time := by
    cases fact <;> rfl
  simp only [Observed.next, StatsCollector.observe, Observation.queue, about,
    if_neg filled, Function.update_self, timed, Option.getD_some]

omit [DecidableEq σ] in
theorem Observed.meant_iff :
    observed.Meant queue ↔ (observed.collector queue).gauges =
      ((observed.stream.waiting : Int), (observed.stream.waitingDelayed : Int)) :=
  Prod.mk_inj.symm

theorem after_succ (driver : Driver) (inside : count < steps.length) :
    after driver steps (count + 1) = (after driver steps count).next driver steps[count] := by
  unfold after
  rw [← List.take_concat_get' _ _ inside, List.foldl_concat]

/-- The gauges stay meant exactly over an attributable step. -/
theorem Observed.meant_next (named : observed.stream.Named queue)
    (known : ∀ pair ∈ observed.stream.running, pair.1 < observed.stream.jobs.length)
    (permitted : observed.stream.Permits queue step.fact) (meant : observed.Meant queue) :
    (observed.next driver step).Meant queue ↔ observed.stream.Attributable driver step.fact := by
  obtain ⟨fact, settlement, time, duration⟩ := step
  rw [meant_iff, observed.gauges_next
    (named.advance known permitted driver time duration).1, gauges_observe]
  obtain ⟨pending, scheduled⟩ := meant
  cases fact with
  | accepted job =>
    simp only [Stream.event, jobEvent, Observed.next, Stream.advance, Stream.waiting,
      Stream.waitingDelayed, List.countP_append, List.countP_singleton, Stream.Attributable,
      pending, scheduled, Prod.mk.injEq, iff_true]
    grind
  | retried index attempt => exact iff_of_true (Prod.ext pending scheduled) trivial
  | finished index attempt failed =>
    refine iff_of_true ?_ trivial
    cases failed <;> exact Prod.ext pending scheduled
  | started index attempt =>
    cases found : observed.stream.jobs[index]? with
    | none => exact absurd permitted (List.getElem?_eq_none_iff.mp found).not_gt
    | some entry =>
      obtain ⟨job, begun⟩ := entry
      have counts := Stream.waiting_started found attempt
      have fewer := observed.stream.waitingDelayed_le
      have same : observed.stream.jobAt index = job := by simp [Stream.jobAt, found]
      have told := @delay_of_delivery driver job attempt
      simp only [Stream.event, jobEvent, Observed.next, Stream.Attributable, found, same, pending,
        scheduled, Prod.mk.injEq, decide_eq_true_eq]
      generalize observed.stream.advance (.started index attempt) = next at *
      cases begun with
      | true =>
        simp only [Bool.not_true, Bool.false_and, Bool.toNat_false, Nat.add_zero] at counts ⊢
        omega
      | false =>
        simp only [Bool.not_false, Bool.true_and, Bool.toNat_true] at counts ⊢
        by_cases delayed : 0 < job.delay
        · simp only [delayed, decide_true, Bool.toNat_true] at counts
          split_ifs <;> omega
        · simp only [delayed, decide_false, Bool.toNat_false] at counts
          split_ifs <;> omega

/-- After any number of permitted steps every job is one of the queue. -/
theorem fits_after (valid : Valid driver queue steps) (inside : count ≤ steps.length) :
    (after driver steps count).stream.Named queue ∧
      ∀ pair ∈ (after driver steps count).stream.running,
      pair.1 < (after driver steps count).stream.jobs.length := by
  induction count with
  | zero => simp [after, Stream.Named]
  | succ count ih =>
    obtain ⟨named, known⟩ := ih (by omega)
    have permitted := valid count _ (List.getElem?_eq_getElem (by omega))
    rw [after_succ driver (by omega)]
    exact (named.advance known permitted driver 0 0).2

/-- In every valid stream, the gauges mean what they say after every event exactly
if every start is attributable where it happens. -/
theorem gauges_meant_iff (driver : Driver) (queue : String) (steps : List (Step σ))
    (valid : Valid driver queue steps) :
    (∀ count ≤ steps.length, (after driver steps count).Meant queue) ↔ ∀ count step,
      steps[count]? = some step ->
      (after driver steps count).stream.Attributable driver step.fact := by
  have one (count : Nat) (inside : count < steps.length)
      (meant : (after driver steps count).Meant queue) :
      (after driver steps (count + 1)).Meant queue ↔
        (after driver steps count).stream.Attributable driver steps[count].fact := by
    obtain ⟨named, known⟩ := fits_after valid inside.le
    rw [after_succ driver inside]
    exact Observed.meant_next named known (valid count _ (List.getElem?_eq_getElem inside)) meant
  constructor
  · intro meant count step found
    obtain ⟨inside, rfl⟩ := List.getElem?_eq_some_iff.mp found
    exact (one count inside (meant count inside.le)).mp (meant _ inside)
  · intro attributable count
    induction count with
    | zero => exact fun _ => ⟨rfl, rfl⟩
    | succ count ih =>
      intro inside
      exact (one count inside (ih (by omega))).mpr
        (attributable count _ (List.getElem?_eq_getElem inside))

instance (queue : String) (stream : Stream) (fact : Fact) : Decidable (stream.Permits queue fact) :=
  match fact with
  | .accepted job => inferInstanceAs (Decidable (jobQueueName job = queue))
  | .retried index attempt => inferInstanceAs (Decidable (index < stream.jobs.length ∧ 0 < attempt))
  | .started index _ => inferInstanceAs (Decidable (index < stream.jobs.length))
  | .finished index attempt _ => inferInstanceAs (Decidable ((index, attempt) ∈ stream.running))

instance (driver : Driver) (queue : String) (steps : List (Step σ)) :
    Decidable (Valid driver queue steps) :=
  decidable_of_iff (∀ count, (inside : count < steps.length) ->
    (after driver steps count).stream.Permits queue steps[count].fact) <| by
  constructor
  · intro permitted count step found
    obtain ⟨inside, rfl⟩ := List.getElem?_eq_some_iff.mp found
    exact permitted count inside
  · exact fun valid count inside =>
      valid count _ (List.getElem?_eq_getElem inside)

instance (queue : String) (observed : Observed σ) : Decidable (observed.Meant queue) :=
  inferInstanceAs (Decidable (_ ∧ _))

end

/-- Two accepted jobs, the first of which is retried while the second waits. -/
def retriedWhileWaiting : List (Step Unit) :=
  [{ fact := .accepted {} }, { fact := .accepted {} },
    { fact := .started 0 0 }, { fact := .finished 0 0 true },
    { fact := .retried 0 1 }, { fact := .started 0 1 }]

/-- A delayed job that is accepted, started and finished. -/
def delayedOnce : List (Step Unit) :=
  [{ fact := .accepted { delay := 1 } }, { fact := .started 0 0 }, { fact := .finished 0 0 false }]

/-- A retry takes the waiting job off `Pending`, and a delayed job of the database
driver stays in `Scheduled` after it ran. -/
theorem gauges_misread :
    (Valid .workerpool "default" retriedWhileWaiting ∧
      (after .workerpool retriedWhileWaiting 6).stream.waiting = 1 ∧
      ¬(after .workerpool retriedWhileWaiting 6).Meant "default") ∧
    Valid .database "default" delayedOnce ∧
      (after .database delayedOnce 3).stream.waitingDelayed = 0 ∧
      ¬(after .database delayedOnce 3).Meant "default" := by
  decide +kernel

theorem gauges_meant_iff_delayed :
    Valid .workerpool "default" delayedOnce ∧
      (after .workerpool delayedOnce 3).Meant "default" := by
  have valid : Valid .workerpool "default" delayedOnce := by decide +kernel
  refine ⟨valid, (gauges_meant_iff .workerpool "default" delayedOnce valid).mpr
    (fun count step found => ?_) 3 (by decide)⟩
  rcases count with _ | _ | _ | count <;> cases found
  · trivial
  · exact id
  · trivial

end JobQueue.Observability
