import JobQueue.Drivers.Brokers
import JobQueue.Interleaving.Invariant
import JobQueue.Interleaving.Log

/-!
# Brokers that fail

RabbitMQ and SQS keep a message until it is acknowledged or deleted, and any
number of workers settle deliveries at the same time. Every publish may be
accepted, rejected or accepted without a confirmation, and every settlement may
fail with or without effect.

Messages are numbered in the order in which the broker accepts them. A message
is given up only for a later one of its job or after the job is finished, so
the last message of an unfinished job stays.
-/

namespace JobQueue.Drivers

open Interleaving

variable {ι : Type}

/-- A message of a job. -/
structure Copy (ι : Type) where
  job : ι
  message : WireMessage
  deriving DecidableEq, Repr

/-- A message that a worker was given, with its number. -/
structure Delivered (ι : Type) where
  index : Nat
  copy : Copy ι
  deriving DecidableEq, Repr

/-- What a worker has done so far. -/
abbrev WorkerLog : Type := List (Entry Op Op.Answer)

/-- All messages the broker ever accepted, those that are gone, the jobs as
they were dispatched, and for each delivery its message and what was done. -/
structure Mailbox (ι : Type) where
  messages : List (Copy ι)
  removed : Nat -> Bool
  original : ι -> Option WireMessage
  delivered : Nat -> Option (Delivered ι)
  log : Nat -> WorkerLog

namespace Mailbox

/-- A mailbox nothing was sent to. -/
def empty : Mailbox ι where
  messages := []
  removed := fun _ => false
  original := fun _ => none
  delivered := fun _ => none
  log := fun _ => []

/-- The broker holds a message. -/
def Holds (mailbox : Mailbox ι) (index : Nat) (copy : Copy ι) : Prop :=
  mailbox.messages[index]? = some copy ∧ mailbox.removed index = false

/-- The effect of an operation that reached the broker. -/
def effect (mailbox : Mailbox ι) (delivery : Delivered ι) : Op -> Mailbox ι
  | .publish message =>
    { mailbox with messages := mailbox.messages ++ [⟨delivery.copy.job, message⟩] }
  | .ack => { mailbox with removed := Function.update mailbox.removed delivery.index true }
  | .delete => { mailbox with removed := Function.update mailbox.removed delivery.index true }
  | _ => mailbox

/-- Note what a worker did. -/
def record (mailbox : Mailbox ι) (label : Nat) (entry : Entry Op Op.Answer) : Mailbox ι :=
  { mailbox with log := Function.update mailbox.log label (mailbox.log label ++ [entry]) }

end Mailbox

/-- What the surroundings of a worker decide. -/
inductive Choice
  | time (now : Int)
  | result (error : Option GoError)
  | done
  /-- An error, with or without effect on the broker. -/
  | failed (error : GoError) (applied : Bool)
  deriving DecidableEq, Repr

/-- The answer to an operation, and whether it reaches the broker. -/
def respond (registered : String -> Bool) :
    (operation : Op) -> Choice -> Option (operation.Answer × Bool)
  | .now, .time now => some (now, false)
  | .lookup jobType, _ => some (registered jobType, false)
  | .handle _, .result error => some (error, false)
  | .publish _, .done => some (none, true)
  | .publish _, .failed error applied => some (some error, applied)
  | .ack, .done => some (none, true)
  | .ack, .failed error applied => some (some error, applied)
  | .nack, .done => some (none, false)
  | .nack, .failed error _ => some (some error, false)
  | .delete, .done => some (none, true)
  | .delete, .failed error applied => some (some error, applied)
  | .commit, _ => some ((), false)
  | .observe _, _ => some ((), false)
  | _, _ => none

/-- Dispatches of new jobs, and deliveries of messages that the broker holds. -/
inductive Move (ι : Type)
  | dispatch (job : ι) (message : WireMessage)
  | deliver (index : Nat)
  deriving DecidableEq, Repr

/-- Workers of one kind on a broker that may fail. -/
def unreliable [DecidableEq ι] (kind : BrokerKind) (registered : String -> Bool) :
    Machine (Mailbox ι) Op Op.Answer Unit Choice (Move ι) where
  exec := fun label mailbox operation choice =>
    match mailbox.delivered label with
    | none => none
    | some delivery =>
      (respond registered operation choice).map fun (answer, applied) =>
        (some answer, (if applied then mailbox.effect delivery operation
            else mailbox).record label ⟨operation, answer⟩)
  finish := fun _ _ mailbox => some mailbox
  external := fun label mailbox move =>
    match move with
    | .dispatch job message =>
      if mailbox.original job = none then
        some
          ({ mailbox with
             messages := mailbox.messages ++ [⟨job, message⟩]
             original := Function.update mailbox.original job (some message) }, none)
      else none
    | .deliver index =>
      match mailbox.messages[index]? with
      | none => none
      | some copy =>
        if mailbox.removed index then none
        else
          some
            ({ mailbox with
               delivered := Function.update mailbox.delivered label (some ⟨index, copy⟩)
               log := Function.update mailbox.log label [] },
              some (kind.worker (some copy.message)))

/-! ## What a delivery is allowed to do -/

/-- The same work: everything but the attempt number and the time. -/
structure SameWork (first second : WireMessage) : Prop where
  jobType : second.jobType = first.jobType
  payload : second.payload = first.payload
  queue : second.queue = first.queue
  maxRetry : second.maxRetry = first.maxRetry
  backoffMillis : second.backoffMillis = first.backoffMillis
  timeoutMillis : second.timeoutMillis = first.timeoutMillis

theorem SameWork.refl (message : WireMessage) : SameWork message message :=
  ⟨rfl, rfl, rfl, rfl, rfl, rfl⟩

theorem SameWork.trans
    (left : SameWork first second) (right : SameWork second third) : SameWork first third where
  jobType := right.jobType.trans left.jobType
  payload := right.payload.trans left.payload
  queue := right.queue.trans left.queue
  maxRetry := right.maxRetry.trans left.maxRetry
  backoffMillis := right.backoffMillis.trans left.backoffMillis
  timeoutMillis := right.timeoutMillis.trans left.timeoutMillis

/-- The classification ends the job. -/
def AttemptDecision.terminal : AttemptDecision -> Bool
  | .succeeded => true
  | .failed => true
  | _ => false

/-- Where a worker is with its delivery. -/
inductive Stage
  | received
  | unregistered
  | handled (shown : WireMessage) (error : Option GoError)
  | replaced (replacement : WireMessage)
  | refused
  | settled (accepted : Bool)
  | returned
  deriving DecidableEq, Repr

/-- The stage is followed by an acknowledgement or deletion. -/
inductive Stage.Settleable : Stage -> Prop
  | unregistered : Settleable .unregistered
  | handled {shown : WireMessage} {error : Option GoError}
      (decided : AttemptDecision.terminal (classifyMessage shown error) = true) :
      Settleable (.handled shown error)
  | replaced (replacement : WireMessage) : Settleable (.replaced replacement)

/-- The stage is followed by handing the message back. -/
inductive Stage.Returnable : Stage -> Prop
  | handled {shown : WireMessage} {error : Option GoError}
      (decided : classifyMessage shown error = .redeliver) :
      Returnable (.handled shown error)
  | refused : Returnable .refused

/-- The message that a publish puts in place of the delivered one: the same, or
the next attempt after an error that is retried. -/
inductive Stage.Replaces (message : WireMessage) : Stage -> WireMessage -> Prop
  | postponed : Replaces message .received message
  | retried {shown next : WireMessage} {error : Option GoError}
      (decided : classifyMessage shown error = .retry) (same : SameWork message next)
      (counted : next.attempt = message.attempt + 1) :
      Replaces message (.handled shown error) next

/-- The stage after a publish. -/
def Stage.published (next : WireMessage) : Option GoError -> Stage
  | none => .replaced next
  | some _ => .refused

/-- What a worker does with a delivered message, stage by stage. -/
inductive Delivery.Moves (message : WireMessage) :
    Stage -> (operation : Op) -> operation.Answer -> Stage -> Prop
  | now (stage : Stage) (time : Int) : Moves message stage .now time stage
  | observe (stage : Stage) (event : Event) (answer : Unit) :
      Moves message stage (.observe event) answer stage
  | lookup (jobType : String) (same : jobType = message.jobType) (registered : Bool) :
      Moves message .received (.lookup jobType) registered
        (if registered then .received else .unregistered)
  | handle {shown : WireMessage} (same : SameWork message shown)
      (attempt : shown.attempt = message.attempt) (error : Option GoError) :
      Moves message .received (.handle shown) error (.handled shown error)
  | publish {stage : Stage} {next : WireMessage}
      (replaces : stage.Replaces message next) (answer : Option GoError) :
      Moves message stage (.publish next) answer (.published next answer)
  | ack {stage : Stage} (settleable : stage.Settleable) (answer : Option GoError) :
      Moves message stage .ack answer (.settled answer.isNone)
  | delete {stage : Stage} (settleable : stage.Settleable) (answer : Option GoError) :
      Moves message stage .delete answer (.settled answer.isNone)
  | nack {stage : Stage} (returnable : stage.Returnable)
      (answer : Option GoError) : Moves message stage .nack answer .returned
  | commit (answer : Unit) : Moves message (.settled true) .commit answer (.settled true)

/-! ## The workers keep to it -/

section Workers

theorem meets_remaining :
    Meets (Delivery.Moves message) (remaining incoming) stage fun _ after => after = stage := by
  unfold remaining
  split
  · exact Meets.perform_bind fun time => ⟨stage, .now stage time, rfl⟩
  · exact rfl

theorem meets_nextAttempt :
    Meets (Delivery.Moves message) (nextAttempt incoming) stage fun next after => after = stage ∧
      SameWork incoming next ∧ next.attempt = incoming.attempt + 1 := by
  simp only [nextAttempt]
  split
  · exact Meets.perform_bind fun time =>
      ⟨stage, .now stage time, rfl, ⟨rfl, rfl, rfl, rfl, rfl, rfl⟩, rfl⟩
  · exact ⟨rfl, ⟨rfl, rfl, rfl, rfl, rfl, rfl⟩, rfl⟩

theorem sameWork_due (incoming : WireMessage) : SameWork incoming (RabbitMQ.due incoming) := by
  unfold RabbitMQ.due
  split
  · exact ⟨rfl, rfl, rfl, rfl, rfl, rfl⟩
  · exact .refl incoming

/-- A report between two operations changes nothing. -/
theorem meets_observe :
    Meets (Delivery.Moves message) (ask (.observe event)) stage fun _ after => after = stage :=
  fun answer => ⟨stage, .observe stage event answer, rfl⟩

theorem meets_rabbitAck (settleable : stage.Settleable) :
    Meets (Delivery.Moves message) (RabbitMQ.ack settled) stage
      fun accepted after => after = .settled accepted := by
  refine Meets.perform_bind fun answer => ⟨_, .ack settleable answer, ?_⟩
  cases answer with
  | none => exact rfl
  | some error =>
    refine Meets.bind meets_observe ?_
    rintro _ _ rfl
    exact rfl

theorem meets_rabbitNack (returnable : stage.Returnable) :
    Meets (Delivery.Moves message) (RabbitMQ.nack settled) stage
      fun _ after => after = .returned := by
  refine Meets.perform_bind fun answer => ⟨_, .nack returnable answer, ?_⟩
  cases answer with
  | none => exact rfl
  | some error => exact meets_observe

/-- A replacement ends with the original settled or handed back. -/
theorem meets_rabbitReplace (replaces : stage.Replaces message next) :
    Meets (Delivery.Moves message) (RabbitMQ.replace next settled) stage
      fun accepted after => accepted = true -> after = .settled true := by
  refine Meets.perform_bind fun answer => ⟨_, .publish replaces answer, ?_⟩
  cases answer with
  | none =>
    refine (meets_rabbitAck (.replaced next)).weaken ?_
    rintro accepted _ rfl rfl
    rfl
  | some error =>
    refine Meets.bind meets_observe ?_
    rintro _ _ rfl
    refine Meets.bind (meets_rabbitNack .refused) ?_
    intro _ _ _ accepted
    cases accepted

theorem meets_sqsDelete (settleable : stage.Settleable) (settled : Option WireMessage) :
    Meets (Delivery.Moves message) (SQS.deleteAndObserve settled) stage
      fun accepted after => after = .settled accepted := by
  refine Meets.perform_bind fun answer => ⟨_, .delete settleable answer, ?_⟩
  cases answer with
  | none => exact rfl
  | some error =>
    refine Meets.bind meets_observe ?_
    rintro _ _ rfl
    exact rfl

theorem meets_sqsReplace (replaces : stage.Replaces message next) :
    Meets (Delivery.Moves message) (SQS.replace next settled) stage
      fun accepted after => accepted = true -> after = .settled true := by
  refine Meets.perform_bind fun answer => ⟨_, .publish replaces answer, ?_⟩
  cases answer with
  | none =>
    refine (meets_sqsDelete (.replaced next) settled).weaken ?_
    rintro accepted _ rfl rfl
    rfl
  | some error =>
    refine Meets.bind meets_observe ?_
    intro _ _ _ accepted
    cases accepted

/-- Deferred facts are run after a settlement that was accepted. -/
theorem meets_commit
    (meets : Meets (Delivery.Moves message) settlement stage
      fun accepted after => accepted = true -> after = .settled true) :
    Meets (Delivery.Moves message) (do if ← settlement then ask .commit) stage fun _ _ => True := by
  refine Meets.bind meets ?_
  rintro (_ | _) after settled
  · exact trivial
  · cases settled rfl
    exact fun answer => ⟨_, .commit answer, trivial⟩

theorem meets_rabbitSettle (same : SameWork message shown)
    (attempt : shown.attempt = message.attempt) :
    Meets (Delivery.Moves message) (RabbitMQ.settle shown (classifyMessage shown error))
      (.handled shown error) fun _ _ => True := by
  cases decided : classifyMessage shown error with
  | succeeded | failed =>
    refine meets_commit ?_
    refine (meets_rabbitAck (.handled (by rw [decided]; rfl))).weaken ?_
    rintro accepted _ rfl rfl
    rfl
  | redeliver => exact (meets_rabbitNack (.handled decided)).weaken fun _ _ _ => trivial
  | retry =>
    refine Meets.bind meets_nextAttempt ?_
    rintro next _ ⟨rfl, kept, counted⟩
    exact meets_commit (meets_rabbitReplace (.retried decided (same.trans kept) (by omega)))

theorem meets_sqsSettle (same : SameWork message shown)
    (attempt : shown.attempt = message.attempt) (error : Option GoError) :
    Meets (Delivery.Moves message) (SQS.settle shown (classifyMessage shown error))
      (.handled shown error) fun _ _ => True := by
  cases decided : classifyMessage shown error with
  | succeeded | failed =>
    refine meets_commit ?_
    refine (meets_sqsDelete (.handled (by rw [decided]; rfl)) _).weaken ?_
    rintro accepted _ rfl rfl
    rfl
  | redeliver => exact trivial
  | retry =>
    refine Meets.bind meets_nextAttempt ?_
    rintro next _ ⟨rfl, kept, counted⟩
    exact meets_commit (meets_sqsReplace (.retried decided (same.trans kept) (by omega)))

/-- Workers of RabbitMQ and SQS keep to the stages of a delivery. -/
theorem meets_worker {kind : BrokerKind} (durable : kind ≠ .nats) (message : WireMessage) :
    Meets (Delivery.Moves message) (kind.worker (some message)) .received fun _ _ => True := by
  cases kind with
  | nats => exact absurd rfl durable
  | rabbitMQ =>
    refine Meets.bind meets_remaining ?_
    rintro wait _ rfl
    split
    · refine Meets.bind (meets_rabbitReplace .postponed) ?_
      exact fun _ _ _ => trivial
    · have same := sameWork_due message
      refine Meets.perform_bind fun registered =>
        ⟨_, .lookup _ same.jobType registered, ?_⟩
      cases registered with
      | true =>
        refine Meets.perform_bind fun error =>
          ⟨_, .handle same RabbitMQ.attempt_due error, ?_⟩
        exact meets_rabbitSettle same RabbitMQ.attempt_due
      | false =>
        refine Meets.bind (meets_rabbitAck .unregistered) ?_
        exact fun _ _ _ => trivial
  | sqs =>
    refine Meets.bind meets_remaining ?_
    rintro wait _ rfl
    split
    · refine Meets.bind (meets_sqsReplace .postponed) ?_
      exact fun _ _ _ => trivial
    · refine Meets.perform_bind fun registered =>
        ⟨_, .lookup _ rfl registered, ?_⟩
      cases registered with
      | true =>
        refine Meets.perform_bind fun error =>
          ⟨_, .handle (.refl message) rfl error, ?_⟩
        exact meets_sqsSettle (.refl message) rfl error
      | false =>
        refine Meets.bind (meets_sqsDelete .unregistered _) ?_
        exact fun _ _ _ => trivial

end Workers

/-! ## Histories of a mailbox -/

/-- An invocation of the handler for a job ended it. -/
def Mailbox.Finished (mailbox : Mailbox ι) (job : ι) : Prop :=
  ∃ label delivery shown error, mailbox.delivered label = some delivery ∧
    delivery.copy.job = job ∧ ⟨.handle shown, error⟩ ∈ mailbox.log label ∧
    AttemptDecision.terminal (classifyMessage shown error) = true

/-- The message comes from the original by a number of invocations whose error
was retried, each on a delivery of the message before. -/
inductive Mailbox.Descends (mailbox : Mailbox ι) (job : ι) (original : WireMessage) :
    WireMessage -> Nat -> Prop
  | origin : Descends mailbox job original original 0
  | retried {message shown next : WireMessage} {count label index : Nat}
      {error : Option GoError}
      (earlier : Descends mailbox job original message count)
      (delivered : mailbox.delivered label = some ⟨index, ⟨job, message⟩⟩)
      (handled : ⟨.handle shown, error⟩ ∈ mailbox.log label)
      (decided : classifyMessage shown error = .retry)
      (published : ∃ answer, ⟨.publish next, answer⟩ ∈ mailbox.log label) :
      Descends mailbox job original next (count + 1)

/-- The message is one of its job: it carries the same work, and its attempt
number counts the retried failures it comes from. -/
structure Mailbox.Belongs (mailbox : Mailbox ι) (job : ι) (original message : WireMessage) :
    Prop where
  work : SameWork original message
  attempt : ∃ count : Nat, mailbox.Descends job original message count ∧
    message.attempt = original.attempt + count

/-- The message was acknowledged or deleted, and the broker accepted it. -/
def Accepted (log : WorkerLog) : Prop :=
  ⟨.ack, none⟩ ∈ log ∨ ⟨.delete, none⟩ ∈ log

/-- The message may be given up: its job is finished or a replacement for it was
confirmed. -/
def Justified (message : WireMessage) (log : WorkerLog) : Prop :=
  (∃ shown error, ⟨.handle shown, error⟩ ∈ log ∧
    AttemptDecision.terminal (classifyMessage shown error) = true) ∨
  ∃ next, ⟨.publish next, none⟩ ∈ log ∧ SameWork message next

/-- The operation gives the message up. -/
def Op.settles : Op -> Prop
  | .ack => True
  | .delete => True
  | _ => False

/-- A delivery that gives its message up only with a reason, never both
acknowledges and returns it, and commits only what the broker accepted. -/
structure Orderly (message : WireMessage) (log : WorkerLog) : Prop where
  justified : ∀ before entry after, log = before ++ entry :: after ->
    entry.1.settles -> Justified message before
  exclusive : ¬((∃ entry ∈ log, entry.1.settles) ∧ ∃ answer, ⟨.nack, answer⟩ ∈ log)
  committed : ∀ before answer after, log = before ++ ⟨.commit, answer⟩ :: after -> Accepted before

variable {α : Type} {mailbox : Mailbox ι} {stage : Stage}

/-- Every entry of a longer log is the last one or one of the shorter log. -/
theorem split_snoc (split : log ++ [last] = before ++ entry :: after) :
    (before = log ∧ entry = last) ∨ ∃ rest, log = before ++ entry :: rest := by
  rcases List.eq_nil_or_concat after with rfl | ⟨rest, final, rfl⟩
  · obtain ⟨same, entries⟩ := List.append_inj' split rfl
    exact .inl ⟨same.symm, (List.singleton_inj.mp entries).symm⟩
  · rw [List.concat_eq_append, ← List.cons_append, ← List.append_assoc] at split
    exact .inr ⟨rest, (List.append_inj' split rfl).1⟩

theorem Orderly.snoc (orderly : Orderly message log)
    (reason : entry.1.settles -> Justified message log)
    (exclusive : (entry.1.settles -> ∀ answer, ⟨.nack, answer⟩ ∉ log) ∧
      (entry.1 = .nack -> ∀ other ∈ log, ¬other.1.settles))
    (accepted : entry.1 = .commit -> Accepted log) :
    Orderly message (log ++ [entry]) where
  justified := by
    intro before other after split settles
    rcases split_snoc split with ⟨rfl, rfl⟩ | ⟨rest, earlier⟩
    · exact reason settles
    · exact orderly.justified _ _ _ earlier settles
  exclusive := by
    rintro ⟨⟨other, member, settles⟩, answer, returned⟩
    rw [List.mem_append, List.mem_singleton] at member returned
    rcases member with member | rfl
    · rcases returned with returned | rfl
      · exact orderly.exclusive ⟨⟨other, member, settles⟩, answer, returned⟩
      · exact exclusive.2 rfl other member settles
    · rcases returned with returned | rfl
      · exact exclusive.1 settles answer returned
      · exact settles
  committed := by
    intro before answer after split
    rcases split_snoc split with ⟨rfl, rfl⟩ | ⟨rest, earlier⟩
    · exact accepted rfl
    · exact orderly.committed _ _ _ earlier

theorem orderly_nil : Orderly message [] := by
  constructor <;> simp

/-! ## Growth -/

/-- Messages, deliveries and logs are only added to. -/
structure Mailbox.Grows (before after : Mailbox ι) : Prop where
  messages : before.messages <+: after.messages
  original : ∀ job message, before.original job = some message -> after.original job = some message
  delivered : ∀ label delivery, before.delivered label = some delivery ->
      after.delivered label = some delivery
  log : ∀ label delivery entry, before.delivered label = some delivery ->
      entry ∈ before.log label -> entry ∈ after.log label

namespace Mailbox.Grows

variable {before : Mailbox ι}

theorem message (grows : before.Grows after) {index : Nat}
    (found : before.messages[index]? = some copy) :
    after.messages[index]? = some copy := by
  obtain ⟨more, same⟩ := grows.messages
  rw [← same, List.getElem?_append_left (List.getElem?_eq_some_iff.mp found).1]
  exact found

variable {original : WireMessage}

theorem finished (grows : before.Grows after) (finished : before.Finished job) :
    after.Finished job := by
  obtain ⟨label, delivery, shown, error, delivered, same, handled, decided⟩ := finished
  exact ⟨label, delivery, shown, error, grows.delivered _ _ delivered, same,
    grows.log _ _ _ delivered handled, decided⟩

theorem descends (grows : before.Grows after) {message : WireMessage}
    (descends : before.Descends job original message count) :
    after.Descends job original message count := by
  induction descends with
  | origin => exact .origin
  | retried _ delivered handled decided published ih =>
    obtain ⟨answer, sent⟩ := published
    exact .retried ih (grows.delivered _ _ delivered) (grows.log _ _ _ delivered handled) decided
      ⟨answer, grows.log _ _ _ delivered sent⟩

theorem belongs (grows : before.Grows after) {message : WireMessage}
    (belongs : before.Belongs job original message) :
    after.Belongs job original message := by
  obtain ⟨work, count, descends, counted⟩ := belongs
  exact ⟨work, count, grows.descends descends, counted⟩

end Mailbox.Grows

/-! ## The invariant -/

variable (registered : String -> Bool)

/-- What holds of a mailbox in every run. -/
structure Mailbox.Sound (bound : Nat) (mailbox : Mailbox ι) : Prop where
  belongs : ∀ (index : Nat) (copy : Copy ι), mailbox.messages[index]? = some copy -> ∃ original,
    mailbox.original copy.job = some original ∧ mailbox.Belongs copy.job original copy.message
  present : ∀ job original, mailbox.original job = some original -> ∃ (index : Nat) (copy : Copy ι),
      mailbox.messages[index]? = some copy ∧ copy.job = job
  removed : ∀ index, mailbox.removed index = true -> index < mailbox.messages.length
  /-- A message is given up for a later one or after the job is finished. -/
  succeeded : ∀ (index : Nat) (copy : Copy ι), mailbox.messages[index]? = some copy ->
    mailbox.removed index = true -> registered copy.message.jobType = true ->
    mailbox.Finished copy.job ∨ ∃ (later : Nat) (other : Copy ι), index < later ∧
    mailbox.messages[later]? = some other ∧ other.job = copy.job
  delivered : ∀ label delivery, mailbox.delivered label = some delivery ->
    mailbox.messages[delivery.index]? = some delivery.copy ∧ label < bound
  orderly : ∀ label delivery, mailbox.delivered label = some delivery ->
    registered delivery.copy.message.jobType = true ->
    Orderly delivery.copy.message (mailbox.log label)

/-- What is known in each stage of a delivery. -/
def Stage.Known (mailbox : Mailbox ι) (delivery : Delivered ι) (log : WorkerLog) : Stage -> Prop
  | .unregistered => registered delivery.copy.message.jobType = false
  | .handled shown error => ⟨.handle shown, error⟩ ∈ log
  | .replaced next => ⟨.publish next, none⟩ ∈ log ∧ SameWork delivery.copy.message next ∧
      ∃ later, delivery.index < later ∧ mailbox.messages[later]? = some ⟨delivery.copy.job, next⟩
  | .settled accepted => accepted = true -> Accepted log
  | _ => True

/-- A worker in a stage of its delivery. -/
structure Working (label : Nat) (delivery : Delivered ι) (stage : Stage)
    (mailbox : Mailbox ι) : Prop where
  delivered : mailbox.delivered label = some delivery
  known : stage.Known registered mailbox delivery (mailbox.log label)
  unsettled : (∀ accepted, stage ≠ .settled accepted) ->
    ∀ entry ∈ mailbox.log label, ¬entry.1.settles
  unreturned : stage ≠ .returned -> ∀ answer, ⟨.nack, answer⟩ ∉ mailbox.log label

/-- The protocol of deliveries. -/
def deliveries : Protocol (Mailbox ι) Op Op.Answer Unit (Move ι) (Delivered ι × Stage) where
  moves := fun phase operation answer after =>
    after.1 = phase.1 ∧ Delivery.Moves phase.1.copy.message phase.2 operation answer after.2
  stop := fun _ _ => True
  entry := fun label mailbox _ phase =>
    mailbox.delivered label = some phase.1 ∧ mailbox.log label = [] ∧ phase.2 = .received

/-- The invariant of mailboxes and deliveries. -/
def conservation : Assertions (Mailbox ι) (Delivered ι × Stage) where
  shared := Mailbox.Sound registered
  thread := fun label phase mailbox =>
    Working registered label phase.1 phase.2 mailbox

theorem deliveries_governs [DecidableEq ι] (durable : kind ≠ .nats) :
    Protocol.Governs (deliveries : Protocol (Mailbox ι) Op Op.Answer Unit (Move ι)
        (Delivered ι × Stage))
      (unreliable kind registered) := by
  intro label before world move program started
  cases move with
  | dispatch job message =>
    simp only [unreliable] at started
    split at started <;> cases started
  | deliver index =>
    simp only [unreliable] at started
    split at started
    · cases started
    · rename_i copy found
      split at started
      · cases started
      · cases started
        refine ⟨(⟨index, copy⟩, .received), ⟨by simp, by simp, rfl⟩, ?_⟩
        refine Meets.simulate (fun stage image => image = (⟨index, copy⟩, stage)) ?_
          (fun _ _ _ _ _ => trivial) (meets_worker durable copy.message) rfl
        rintro _ _ _ after _ moved rfl
        exact ⟨(⟨index, copy⟩, after), ⟨rfl, moved⟩, rfl⟩

/-! ## Steps of a worker -/

/-- The mailbox after an operation. -/
def Mailbox.after (mailbox : Mailbox ι) (label : Nat) (delivery : Delivered ι)
    (operation : Op) (answer : operation.Answer) (applied : Bool) :
    Mailbox ι :=
  (if applied then mailbox.effect delivery operation else mailbox).record label ⟨operation, answer⟩

theorem exec_unreliable [DecidableEq ι] {registered : String -> Bool}
    (executed : (unreliable kind registered).exec label mailbox operation
      choice = some (some answer, world)) :
    ∃ delivery applied, mailbox.delivered label = some delivery ∧
      respond registered operation choice = some (answer, applied) ∧
      world = mailbox.after label delivery operation answer applied := by
  simp only [unreliable] at executed
  split at executed
  · cases executed
  · rename_i delivery delivered
    rw [Option.map_eq_some_iff] at executed
    obtain ⟨⟨given, applied⟩, responded, same⟩ := executed
    cases same
    exact ⟨delivery, applied, delivered, responded, rfl⟩

section After

variable (mailbox : Mailbox ι) (label : Nat) (delivery : Delivered ι)
  (operation : Op) (answer : operation.Answer) (applied : Bool)

@[simp] theorem after_delivered :
    (mailbox.after label delivery operation answer applied).delivered = mailbox.delivered := by
  cases applied
  · rfl
  · cases operation <;> rfl

@[simp] theorem after_original :
    (mailbox.after label delivery operation answer applied).original = mailbox.original := by
  cases applied
  · rfl
  · cases operation <;> rfl

@[simp] theorem after_log :
    (mailbox.after label delivery operation answer applied).log = Function.update mailbox.log label
        (mailbox.log label ++ [⟨operation, answer⟩]) := by
  cases applied
  · rfl
  · cases operation <;> rfl

theorem after_messages :
    (mailbox.after label delivery operation answer applied).messages = mailbox.messages ∨
      ∃ next, operation = .publish next ∧ applied = true ∧
        (mailbox.after label delivery operation answer applied).messages =
          mailbox.messages ++ [⟨delivery.copy.job, next⟩] := by
  cases applied
  · exact .inl rfl
  · cases operation with
    | publish next => exact .inr ⟨next, rfl, rfl, rfl⟩
    | _ => exact .inl rfl

theorem after_removed :
    (mailbox.after label delivery operation answer applied).removed = mailbox.removed ∨
      (operation.settles ∧ (mailbox.after label delivery operation answer applied).removed =
          Function.update mailbox.removed delivery.index true) := by
  cases applied
  · exact .inl rfl
  · cases operation with
    | ack | delete => exact .inr ⟨trivial, rfl⟩
    | _ => exact .inl rfl

theorem grows_after : mailbox.Grows (mailbox.after label delivery operation answer applied) where
  messages := by
    rcases after_messages mailbox label delivery operation answer applied with
      same | ⟨next, _, _, added⟩
    · simp [same]
    · simp [added]
  original := by simp
  delivered := by simp
  log := by
    intro other _ entry _ member
    rw [after_log]
    by_cases same : other = label
    · subst same
      simp [member]
    · rwa [Function.update_of_ne same]

end After

variable {registered}

theorem Stage.Known.mono (grows : before.Grows after) (extends_ : ∀ entry ∈ log, entry ∈ longer)
    (known : stage.Known registered before delivery log) :
    stage.Known registered after delivery longer := by
  cases stage with
  | handled shown error => exact extends_ _ known
  | replaced next =>
    obtain ⟨published, same, later, order, found⟩ := known
    exact ⟨extends_ _ published, same, later, order, grows.message found⟩
  | settled accepted =>
    intro was
    exact (known was).imp (extends_ _) (extends_ _)
  | unregistered => exact known
  | received | refused | returned => trivial

/-- What a worker knows is not affected by the others. -/
theorem Working.frame (grows : before.Grows after)
    (working : Working registered label delivery stage before)
    (same : after.log label = before.log label) :
    Working registered label delivery stage after where
  delivered := grows.delivered _ _ working.delivered
  known := by
    rw [same]
    exact working.known.mono grows fun _ => id
  unsettled := by
    rw [same]
    exact working.unsettled
  unreturned := by
    rw [same]
    exact working.unreturned

section Worker

variable {delivery : Delivered ι} (working : Working registered label delivery stage mailbox)
include working

/-- What is known in the stage after an operation. -/
theorem known_after (found : mailbox.messages[delivery.index]? = some delivery.copy)
    (moved : Delivery.Moves delivery.copy.message stage operation answer next)
    (responded : respond registered operation choice = some (answer, applied)) :
    next.Known registered (mailbox.after label delivery operation answer applied) delivery
      (mailbox.log label ++ [⟨operation, answer⟩]) := by
  have grows := grows_after mailbox label delivery operation answer applied
  have kept : stage.Known registered
      (mailbox.after label delivery operation answer applied) delivery
      (mailbox.log label ++ [⟨operation, answer⟩]) :=
    working.known.mono grows fun entry member =>
      List.mem_append_left _ member
  cases moved with
  | now | observe | commit => exact kept
  | lookup jobType same answered =>
    cases answered with
    | true => trivial
    | false =>
      subst same
      have unknown : registered delivery.copy.message.jobType = false := by
        cases choice <;> simp only [respond, Option.some_inj,
          Prod.mk.injEq] at responded <;> exact responded.1
      exact unknown
  | handle same attempt error => exact List.mem_append_right _ (by simp)
  | @publish stage next replaces answer =>
    cases answer with
    | some error => trivial
    | none =>
      have reached : applied = true := by
        cases choice <;> simp [respond] at responded
        exact responded
      subst reached
      refine ⟨by simp, ?_, mailbox.messages.length, ?_, ?_⟩
      · cases replaces with
        | postponed => exact .refl _
        | retried decided same counted => exact same
      · exact (List.getElem?_eq_some_iff.mp found).1
      · simp [Mailbox.after, Mailbox.effect, Mailbox.record]
  | ack settleable answer =>
    intro accepted
    cases answer with
    | some error => cases accepted
    | none => exact .inl (by simp)
  | delete settleable answer =>
    intro accepted
    cases answer with
    | some error => cases accepted
    | none => exact .inr (by simp)
  | nack returnable answer => trivial

/-- A worker is in the next stage after its operation. -/
theorem Working.step (found : mailbox.messages[delivery.index]? = some delivery.copy)
    (moved : Delivery.Moves delivery.copy.message stage operation answer next)
    (responded : respond registered operation choice = some (answer, applied)) :
    Working registered label delivery next
      (mailbox.after label delivery operation answer applied) where
  delivered := by simpa using working.delivered
  known := by
    rw [after_log, Function.update_self]
    exact known_after working found moved responded
  unsettled := by
    rw [after_log, Function.update_self]
    intro open_ entry member
    rw [List.mem_append, List.mem_singleton] at member
    rcases member with earlier | rfl
    · refine working.unsettled ?_ entry earlier
      rintro accepted rfl
      cases moved with
      | now | observe | commit => exact open_ _ rfl
      | publish replaces => cases replaces
      | ack settleable => cases settleable
      | delete settleable => cases settleable
      | nack returnable => cases returnable
    · cases moved with
      | ack => exact absurd rfl (open_ _)
      | delete => exact absurd rfl (open_ _)
      | _ => exact id
  unreturned := by
    rw [after_log, Function.update_self]
    intro open_ given member
    rw [List.mem_append, List.mem_singleton] at member
    rcases member with earlier | same
    · refine working.unreturned ?_ given earlier
      rintro rfl
      cases moved with
      | now | observe => exact open_ rfl
      | publish replaces => cases replaces
      | ack settleable => cases settleable
      | delete settleable => cases settleable
      | nack returnable => cases returnable
    · cases moved with
      | nack => exact open_ rfl
      | _ => cases same

/-- A settleable stage of a registered job has its reason in the log. -/
theorem Working.justified (known : registered delivery.copy.message.jobType = true)
    (settleable : stage.Settleable) :
    Justified delivery.copy.message (mailbox.log label) := by
  have holds := working.known
  cases settleable with
  | unregistered =>
    change registered _ = false at holds
    rw [known] at holds
    cases holds
  | handled decided => exact .inl ⟨_, _, holds, decided⟩
  | replaced next => exact .inr ⟨next, holds.1, holds.2.1⟩

theorem Working.orderly (known : registered delivery.copy.message.jobType = true)
    (orderly : Orderly delivery.copy.message (mailbox.log label))
    (moved : Delivery.Moves delivery.copy.message stage operation answer next) :
    Orderly delivery.copy.message (mailbox.log label ++ [⟨operation, answer⟩]) := by
  refine orderly.snoc ?_ ⟨?_, ?_⟩ ?_
  · intro settles
    cases moved with
    | ack settleable => exact working.justified known settleable
    | delete settleable => exact working.justified known settleable
    | _ => exact settles.elim
  · intro settles
    refine working.unreturned ?_
    rintro rfl
    cases moved with
    | ack settleable => cases settleable
    | delete settleable => cases settleable
    | nack returnable => cases returnable
    | publish replaces => cases replaces
    | now | observe => exact settles
  · rintro same
    refine working.unsettled ?_
    rintro accepted rfl
    cases moved with
    | nack returnable => cases returnable
    | ack settleable => cases settleable
    | delete settleable => cases settleable
    | publish replaces => cases replaces
    | now | observe | commit => cases same
  · intro same
    cases moved with
    | commit => exact working.known rfl
    | _ => cases same

/-- A new message is one of its job. -/
theorem belongs_published
    (belongs : mailbox.Belongs delivery.copy.job original delivery.copy.message)
    (replaces : stage.Replaces delivery.copy.message next) :
    (mailbox.after label delivery (.publish next) answer applied).Belongs
      delivery.copy.job original next := by
  have grows := grows_after mailbox label delivery (.publish next) answer applied
  have later := grows.belongs belongs
  obtain ⟨work, count, descends, attempt⟩ := later
  have known := working.known
  cases replaces with
  | postponed => exact ⟨work, count, descends, attempt⟩
  | retried decided same counted =>
    have delivered : (mailbox.after label delivery (.publish next) answer
        applied).delivered label = some ⟨delivery.index, ⟨delivery.copy.job,
            delivery.copy.message⟩⟩ :=
      grows.delivered _ _ working.delivered
    refine ⟨work.trans same, count + 1, ?_, by push_cast; omega⟩
    exact .retried descends delivered
      (grows.log _ _ _ working.delivered known) decided ⟨answer, by simp⟩

/-- A settleable message of a registered job is not the last of an unfinished
job. -/
theorem Working.succeeded (known : registered delivery.copy.message.jobType = true)
    (settleable : stage.Settleable) :
    mailbox.Finished delivery.copy.job ∨ ∃ (later : Nat) (other : Copy ι), delivery.index < later ∧
        mailbox.messages[later]? = some other ∧ other.job = delivery.copy.job := by
  have holds := working.known
  cases settleable with
  | unregistered =>
    change registered _ = false at holds
    rw [known] at holds
    cases holds
  | handled decided => exact .inl ⟨label, delivery, _, _, working.delivered, rfl, holds, decided⟩
  | replaced next =>
    obtain ⟨_, _, later, order, found⟩ := holds
    exact .inr ⟨later, _, order, found, rfl⟩

end Worker

/-- An operation of a worker keeps the mailbox sound. -/
theorem Mailbox.Sound.step (sound : mailbox.Sound registered bound)
    (working : Working registered label delivery stage mailbox)
    (moved : Delivery.Moves delivery.copy.message stage operation answer next) :
    (mailbox.after label delivery operation answer applied).Sound registered bound := by
  have grows := grows_after mailbox label delivery operation answer applied
  have found := (sound.delivered _ _ working.delivered).1
  constructor
  case belongs =>
    intro index copy present
    rw [after_original]
    rcases after_messages mailbox label delivery operation answer applied with
      same | ⟨next, rfl, _, added⟩
    · rw [same] at present
      obtain ⟨original, known, belongs⟩ := sound.belongs _ _ present
      exact ⟨original, known, grows.belongs belongs⟩
    · rw [added, List.getElem?_append] at present
      split at present
      · obtain ⟨original, known, belongs⟩ := sound.belongs _ _ present
        exact ⟨original, known, grows.belongs belongs⟩
      · rw [List.getElem?_singleton] at present
        split at present
        · cases present
          obtain ⟨original, known, belongs⟩ := sound.belongs _ _ found
          refine ⟨original, known, ?_⟩
          cases moved with
          | publish replaces => exact belongs_published working belongs replaces
        · cases present
  case present =>
    intro job original known
    rw [after_original] at known
    obtain ⟨index, copy, present, same⟩ := sound.present _ _ known
    exact ⟨index, copy, grows.message present, same⟩
  case removed =>
    intro index gone
    have longer := grows.messages.length_le
    rcases after_removed mailbox label delivery operation answer
      applied with same | ⟨settles, changed⟩
    · rw [same] at gone
      have bounded := sound.removed _ gone
      omega
    · rw [changed] at gone
      by_cases own : index = delivery.index
      · subst own
        have bounded := (List.getElem?_eq_some_iff.mp found).1
        omega
      · rw [Function.update_of_ne own] at gone
        have bounded := sound.removed _ gone
        omega
  case succeeded =>
    have carry : ∀ {index : Nat} {job : ι},
        (mailbox.Finished job ∨ ∃ (later : Nat) (other : Copy ι),
        index < later ∧ mailbox.messages[later]? = some other ∧ other.job = job) ->
        (mailbox.after label delivery operation answer applied).Finished job ∨
        ∃ (later : Nat) (other : Copy ι), index < later ∧
        (mailbox.after label delivery operation answer applied).messages[later]? = some other ∧
        other.job = job := by
      rintro index job (finished | ⟨later, other, order, present, same⟩)
      · exact .inl (grows.finished finished)
      · exact .inr ⟨later, other, order, grows.message present, same⟩
    intro index copy present gone known
    by_cases own : index = delivery.index ∧ operation.settles
    · obtain ⟨rfl, settles⟩ := own
      rw [grows.message found, Option.some_inj] at present
      subst present
      have settleable : stage.Settleable := by
        cases moved with
        | ack settleable | delete settleable => exact settleable
        | _ => exact settles.elim
      exact carry (working.succeeded known settleable)
    · have before : mailbox.removed index = true := by
        rcases after_removed mailbox label delivery operation answer
          applied with same | ⟨settles, changed⟩
        · rwa [same] at gone
        · rw [changed, Function.update_of_ne (fun same => own ⟨same, settles⟩)] at gone
          exact gone
      -- A message that is gone was there before.
      rcases after_messages mailbox label delivery operation answer
        applied with same | ⟨next, _, _, added⟩
      · rw [same] at present
        exact carry (sound.succeeded _ _ present before known)
      · rw [added, List.getElem?_append] at present
        split at present
        · exact carry (sound.succeeded _ _ present before known)
        · rename_i fresh
          exact absurd (sound.removed _ before) fresh
  case delivered =>
    intro other given delivered
    rw [after_delivered] at delivered
    obtain ⟨present, bounded⟩ := sound.delivered _ _ delivered
    exact ⟨grows.message present, bounded⟩
  case orderly =>
    intro other given delivered known
    rw [after_delivered] at delivered
    rw [after_log]
    by_cases same : other = label
    · subst same
      rw [working.delivered, Option.some_inj] at delivered
      subst delivered
      rw [Function.update_self]
      exact working.orderly known (sound.orderly _ _ working.delivered known) moved
    · rw [Function.update_of_ne same]
      exact sound.orderly _ _ delivered known

/-! ## Dispatches and deliveries -/

/-- The mailbox after a dispatch. -/
def Mailbox.dispatched [DecidableEq ι] (mailbox : Mailbox ι) (job : ι) (message : WireMessage) :
    Mailbox ι :=
  { mailbox with
    messages := mailbox.messages ++ [⟨job, message⟩]
    original := Function.update mailbox.original job (some message) }

@[simp] theorem dispatched_messages [DecidableEq ι] :
    (mailbox.dispatched job message).messages = mailbox.messages ++ [⟨job, message⟩] := rfl

@[simp] theorem dispatched_original [DecidableEq ι] :
    (mailbox.dispatched job message).original =
      Function.update mailbox.original job (some message) := rfl

theorem grows_dispatched [DecidableEq ι] (fresh : mailbox.original job = none)
    (message : WireMessage) :
    mailbox.Grows (mailbox.dispatched job message) where
  messages := List.prefix_append _ _
  original := by
    intro other original known
    have different : other ≠ job := by
      rintro rfl
      rw [fresh] at known
      cases known
    rw [dispatched_original, Function.update_of_ne different]
    exact known
  delivered := fun _ _ => id
  log := fun _ _ _ _ => id

theorem Mailbox.Sound.dispatched [DecidableEq ι] (sound : mailbox.Sound registered bound)
    (fresh : mailbox.original job = none) :
    (mailbox.dispatched job message).Sound registered bound := by
  have grows := grows_dispatched fresh message
  constructor
  case belongs =>
    intro index copy present
    rw [dispatched_messages, List.getElem?_append] at present
    split at present
    · obtain ⟨original, known, belongs⟩ := sound.belongs _ _ present
      exact ⟨original, grows.original _ _ known, grows.belongs belongs⟩
    · rw [List.getElem?_singleton] at present
      split at present
      · cases present
        refine ⟨message, by simp, .refl message, 0, .origin, by simp⟩
      · cases present
  case present =>
    intro other original known
    by_cases same : other = job
    · exact ⟨mailbox.messages.length, ⟨job, message⟩, by simp, same.symm⟩
    · rw [dispatched_original, Function.update_of_ne same] at known
      obtain ⟨index, copy, present, own⟩ := sound.present _ _ known
      exact ⟨index, copy, grows.message present, own⟩
  case removed =>
    intro index gone
    have bounded := sound.removed index gone
    have longer := grows.messages.length_le
    omega
  case succeeded =>
    intro index copy present gone known
    rw [dispatched_messages, List.getElem?_append_left (sound.removed index gone)] at present
    rcases sound.succeeded _ _ present gone known with finished | ⟨later, other, order, found, same⟩
    · exact .inl (grows.finished finished)
    · exact .inr ⟨later, other, order, grows.message found, same⟩
  case delivered =>
    intro label delivery delivered
    obtain ⟨present, bounded⟩ := sound.delivered _ _ delivered
    exact ⟨grows.message present, bounded⟩
  case orderly => exact sound.orderly

/-- The mailbox after the start of a delivery. -/
def Mailbox.delivering (mailbox : Mailbox ι) (label : Nat) (delivery : Delivered ι) : Mailbox ι :=
  { mailbox with
    delivered := Function.update mailbox.delivered label (some delivery)
    log := Function.update mailbox.log label [] }

@[simp] theorem delivering_delivered :
    (mailbox.delivering label delivery).delivered =
      Function.update mailbox.delivered label (some delivery) := rfl

@[simp] theorem delivering_log :
    (mailbox.delivering label delivery).log = Function.update mailbox.log label [] := rfl

theorem grows_delivering (fresh : mailbox.delivered label = none) (delivery : Delivered ι) :
    mailbox.Grows (mailbox.delivering label delivery) := by
  have different : ∀ {other given}, mailbox.delivered other = some given -> other ≠ label := by
    rintro other given delivered rfl
    rw [fresh] at delivered
    cases delivered
  refine ⟨List.prefix_refl _, fun _ _ => id, ?_, ?_⟩
  · intro other given delivered
    rw [delivering_delivered, Function.update_of_ne (different delivered)]
    exact delivered
  · intro other given entry delivered member
    rw [delivering_log, Function.update_of_ne (different delivered)]
    exact member

theorem Mailbox.Sound.unused (sound : mailbox.Sound registered bound) :
    mailbox.delivered bound = none := by
  cases delivered : mailbox.delivered bound with
  | none => rfl
  | some delivery => exact absurd (sound.delivered _ _ delivered).2 (Nat.lt_irrefl _)

theorem Mailbox.Sound.delivering (sound : mailbox.Sound registered bound)
    (found : mailbox.messages[delivery.index]? = some delivery.copy) :
    (mailbox.delivering bound delivery).Sound registered (bound + 1) := by
  have grows := grows_delivering sound.unused delivery
  constructor
  case belongs =>
    intro index copy present
    obtain ⟨original, known, belongs⟩ := sound.belongs _ _ present
    exact ⟨original, known, grows.belongs belongs⟩
  case present => exact sound.present
  case removed => exact sound.removed
  case succeeded =>
    intro index copy present gone known
    exact (sound.succeeded _ _ present gone known).imp grows.finished id
  case delivered =>
    intro label given delivered
    by_cases same : label = bound
    · subst same
      rw [delivering_delivered, Function.update_self, Option.some_inj] at delivered
      subst delivered
      exact ⟨found, by omega⟩
    · rw [delivering_delivered, Function.update_of_ne same] at delivered
      obtain ⟨present, bounded⟩ := sound.delivered _ _ delivered
      exact ⟨present, by omega⟩
  case orderly =>
    intro label given delivered known
    by_cases same : label = bound
    · subst same
      rw [delivering_log, Function.update_self]
      exact orderly_nil
    · rw [delivering_delivered, Function.update_of_ne same] at delivered
      rw [delivering_log, Function.update_of_ne same]
      exact sound.orderly _ _ delivered known

/-- Every step of the broker and its workers keeps the invariant. -/
theorem conservation_kept [DecidableEq ι] :
    Assertions.Kept (conservation registered : Assertions (Mailbox ι) (Delivered ι × Stage))
      (unreliable kind registered) .always deliveries where
  operation := by
    rintro bound label ⟨delivery, stage⟩ ⟨_, next⟩ before world operation
      answer choice bounded sound working ⟨rfl, moved⟩ executed _
    obtain ⟨given, applied, delivered, responded, rfl⟩ := exec_unreliable executed
    have same := working.delivered.symm.trans delivered
    cases same
    refine ⟨sound.step working moved, ?_, ?_⟩
    · exact working.step (sound.delivered _ _ delivered).1 moved responded
    · intro other phase _ different known
      refine known.frame (grows_after _ _ _ _ _ _) ?_
      rw [after_log, Function.update_of_ne different]
  blocked := by
    intro bound label before world operation choice bounded sound executed
    simp only [unreliable] at executed
    split at executed
    · cases executed
    · simp at executed
  finished := by
    intro bound label phase before world result bounded sound working stops settled
    cases settled
    exact ⟨sound, fun _ _ _ _ => id⟩
  idle := by
    intro bound before world move sound moved _
    cases move with
    | dispatch job message =>
      simp only [unreliable] at moved
      split at moved
      · rename_i fresh
        cases moved
        exact ⟨sound.dispatched fresh, fun other phase _ _ known =>
          known.frame (grows_dispatched fresh message) rfl⟩
      · cases moved
    | deliver index =>
      simp only [unreliable] at moved
      split at moved
      · cases moved
      · split at moved <;> cases moved
  started := by
    intro bound before world move program phase sound moved _ entered
    cases move with
    | dispatch job message =>
      simp only [unreliable] at moved
      split at moved <;> cases moved
    | deliver index =>
      simp only [unreliable] at moved
      split at moved
      · cases moved
      · rename_i copy found
        split at moved
        · cases moved
        · cases moved
          have later := @Mailbox.Sound.delivering _ _ _ _ ⟨index, copy⟩ sound found
          obtain ⟨delivery, stage⟩ := phase
          obtain ⟨delivered, fresh, rfl⟩ := entered
          refine ⟨later, ⟨delivered, trivial, ?_, ?_⟩, ?_⟩
          · intro _ entry member
            rw [fresh] at member
            cases member
          · intro _ answer member
            rw [fresh] at member
            cases member
          · intro other phase small _ known
            refine known.frame (grows_delivering sound.unused ⟨index, copy⟩) ?_
            have different : other ≠ bound := by omega
            exact Function.update_of_ne different _ _

/-! ## Conservation -/

theorem sound_empty : (Mailbox.empty : Mailbox ι).Sound registered 0 := by
  constructor <;> simp [Mailbox.empty]

/-- No chain of later messages goes on for ever. -/
theorem exists_last {α : Type} (wanted : α -> Prop) {entries : List α} {entry : α} {index : Nat}
    (found : entries[index]? = some entry) (holds : wanted entry) :
    ∃ (last : Nat) (final : α), entries[last]? = some final ∧ wanted final ∧
      ∀ (later : Nat) (other : α), last < later -> entries[later]? = some other ->
      ¬wanted other := by
  by_cases more : ∃ (later : Nat) (other : α), index < later ∧
      entries[later]? = some other ∧ wanted other
  · obtain ⟨later, other, order, present, same⟩ := more
    have bounded := (List.getElem?_eq_some_iff.mp present).1
    exact exists_last wanted present same
  · refine ⟨index, entry, found, holds, ?_⟩
    intro later other order present same
    exact more ⟨later, other, order, present, same⟩
termination_by entries.length - index

/-- While no invocation of its handler has ended a job, the broker holds a
message of it, with the same work and an attempt number that counts the retried
failures it comes from. Every delivery gives its message up only after the end
of the job or for a confirmed replacement, never both acknowledges and returns
it, and commits its facts only after the broker has accepted the settlement. -/
theorem unfinished_jobs_stay [DecidableEq ι] {kind : BrokerKind} (durable : kind ≠ .nats)
    {registered : String -> Bool} {config : Config (Mailbox ι) Op Op.Answer Unit}
    (reached : (unreliable kind registered).Reaches .always (Config.initial Mailbox.empty) config) :
    (∀ job original, config.world.original job = some original ->
      registered original.jobType = true -> ¬config.world.Finished job ->
      ∃ index message, config.world.Holds index ⟨job, message⟩ ∧
        config.world.Belongs job original message) ∧
    ∀ label delivery, config.world.delivered label = some delivery ->
      registered delivery.copy.message.jobType = true ->
      Orderly delivery.copy.message (config.world.log label) := by
  have hold := Assertions.Hold.reaches (deliveries_governs registered durable)
    conservation_kept (Assertions.Hold.initial sound_empty) reached
  have sound : config.world.Sound registered config.nextLabel := hold.shared
  refine ⟨?_, sound.orderly⟩
  intro job original known typed unfinished
  obtain ⟨index, copy, found, same⟩ := sound.present _ _ known
  obtain ⟨last, ⟨owner, message⟩, present, own, final⟩ :=
    exists_last (fun copy : Copy ι => copy.job = job) found same
  cases own
  obtain ⟨given, recorded, belongs⟩ := sound.belongs _ _ present
  rw [known, Option.some_inj] at recorded
  subst recorded
  refine ⟨last, message, ⟨present, ?_⟩, belongs⟩
  cases gone : config.world.removed last with
  | false => rfl
  | true =>
    rcases sound.succeeded _ _ present gone (belongs.work.jobType ▸ typed) with
      finished | ⟨later, other, order, found, same⟩
    · exact absurd finished unfinished
    · exact absurd same (final later other order found)

/-- A job with one retry. -/
def receiptMessage : WireMessage where
  jobType := "receipts:print"
  queue := "default"
  attempt := 0
  maxRetry := 1
  backoffMillis := 0
  timeoutMillis := 0
  availableAtMS := 0
  payload := [7]

/-- The handler fails, the broker accepts the replacement without saying so,
and the worker hands the original back. -/
def ambiguousRetry : Option (Config (Mailbox Unit) Op Op.Answer Unit) :=
  (unreliable .rabbitMQ fun _ => true).run .always
    (Config.initial Mailbox.empty)
    [.external (.dispatch () receiptMessage), .external (.deliver 0),
      .run 0 .done, .run 0 (.result (some (.text "printer offline"))),
      .run 0 (.failed (.text "confirmation lost") true), .run 0 .done,
      .run 0 .done]

theorem unfinished_jobs_stay_ambiguous_retry :
    ∃ config, ambiguousRetry = some config ∧ (∃ index message, config.world.Holds index ⟨(),
      message⟩ ∧ config.world.Belongs () receiptMessage message) ∧
      Orderly receiptMessage (config.world.log 0) := by
  obtain ⟨config, ran⟩ : ∃ config, ambiguousRetry = some config := ⟨_, rfl⟩
  have stays := @unfinished_jobs_stay _ _ .rabbitMQ (by decide) _ _ (Machine.Reaches.of_run ran)
  refine ⟨config, ran, stays.1 () receiptMessage ?_ rfl ?_,
    stays.2 0 ⟨0, (), receiptMessage⟩ ?_ rfl⟩
  · cases ran
    rfl
  · cases ran
    rintro ⟨label, delivery, shown, error, delivered, -, handled, decided⟩
    change Function.update (fun _ => none) 0 _ label = _ at delivered
    by_cases first : label = 0
    · subst first
      change _ ∈ ([⟨.lookup "receipts:print", true⟩,
        ⟨.handle receiptMessage, some (.text "printer offline")⟩,
        ⟨.publish { receiptMessage with attempt := 1 }, some (.text "confirmation lost")⟩,
        ⟨.observe _, ()⟩, ⟨.nack, none⟩] : WorkerLog) at handled
      simp only [List.mem_cons, Sigma.mk.injEq, reduceCtorEq, false_and,
        Op.handle.injEq, List.not_mem_nil, or_false, false_or] at handled
      obtain ⟨rfl, same⟩ := handled
      cases eq_of_heq same
      cases decided
    · rw [Function.update_of_ne first] at delivered
      cases delivered
  · cases ran
    rfl

end JobQueue.Drivers
