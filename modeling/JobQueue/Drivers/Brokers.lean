import JobQueue.Drivers.Attempts
import JobQueue.Interleaving.Prog

/-!
# Broker drivers

The workers of RabbitMQ, SQS and NATS settle one delivered message each: they
acknowledge or delete it, hand it back, or publish a replacement. Programs
include the failures of the broker; a reliable broker answers every request
positively, redelivers what is handed back or not deleted, and delivers nothing
twice.
-/

namespace JobQueue.Drivers

open Interleaving
open Scripted

/-- The wire format shared by `rabbitMQMessage`, `sqsMessage` and
`natsMessage`, without metadata and publication time. -/
structure WireMessage where
  jobType : String
  queue : String
  attempt : Int
  maxRetry : Int
  backoffMillis : Int
  timeoutMillis : Int
  availableAtMS : Int
  payload : List UInt8 := []
  deriving DecidableEq, Repr

/-- The options of a dispatched job that the wire format keeps. -/
structure DriverJobOptions where
  queueName : String
  maxRetry : Option Int
  backoff : Option Int
  timeout : Option Int
  delay : Int
  deriving DecidableEq, Repr

/-- A duration that counts only if it is positive. -/
def positiveDuration : Option Int -> Int
  | none => 0
  | some duration => if 0 < duration then duration else 0

/-- `rabbitMQMessageForJob`, `sqsMessageForJob` and `natsMessageForJob`. -/
def messageForJob (now : Int) (jobType : String) (options : DriverJobOptions) : WireMessage :=
  { jobType := jobType
    queue := options.queueName
    attempt := 0
    maxRetry := options.maxRetry.getD 0
    backoffMillis := positiveDuration options.backoff
    timeoutMillis := positiveDuration options.timeout
    availableAtMS := if 0 < options.delay then now + options.delay else 0 }

/-- Facts that a worker reports to its observer. -/
inductive Event
  | republishFailed (message : WireMessage) (error : GoError)
  | settlementFailed (message : Option WireMessage) (error : GoError)
  deriving DecidableEq, Repr

/-- Operations of a worker on the message it was delivered. -/
inductive Op
  | now
  | lookup (jobType : String)
  | handle (message : WireMessage)
  | publish (message : WireMessage)
  /-- Publish when a timer has run out. -/
  | publishAfter (delay : Int) (message : WireMessage)
  | ack
  /-- Hand the message back to the broker. -/
  | nack
  | delete
  /-- Run the deferred facts of the delivery. -/
  | commit
  | observe (event : Event)

/-- What an operation answers. -/
@[reducible] def Op.Answer : Op -> Type
  | .now => Int
  | .lookup _ => Bool
  | .handle _ => Option GoError
  | .publish _ => Option GoError
  | .publishAfter _ _ => Unit
  | .ack => Option GoError
  | .nack => Option GoError
  | .delete => Option GoError
  | .commit => Unit
  | .observe _ => Unit

/-- Programs of a worker. -/
abbrev Worker : Type -> Type := Prog Op Op.Answer

/-- Perform one operation. -/
def ask (operation : Op) : Worker operation.Answer := Prog.perform operation

/-! ## Shared steps -/

/-- The message is not due yet, and how long it is to wait. -/
def remaining (incoming : WireMessage) : Worker Int :=
  if 0 < incoming.availableAtMS then do
    let now ← ask .now
    pure (incoming.availableAtMS - now)
  else pure 0

/-- The replacement for an attempt that is retried. -/
def nextAttempt (incoming : WireMessage) : Worker WireMessage :=
  let incoming := { incoming with attempt := incoming.attempt + 1 }
  if 0 < incoming.backoffMillis then do
    let now ← ask .now
    pure { incoming with availableAtMS := now + incoming.backoffMillis }
  else pure { incoming with availableAtMS := 0 }

/-- How a worker settles a handled message by the shared classification. -/
def classifyMessage (incoming : WireMessage) (err : Option GoError) : AttemptDecision :=
  classifyAttempt { number := incoming.attempt, maxRetry := incoming.maxRetry } err

/-! ## RabbitMQ -/

namespace RabbitMQ

/-- `ack`: whether the broker accepted the acknowledgement. -/
def ack (message : Option WireMessage) : Worker Bool := do
  match ← ask .ack with
  | some error =>
    ask (.observe (.settlementFailed message (.wrap "ack rabbitmq delivery" error)))
    pure false
  | none => pure true

/-- Negative acknowledgement. -/
def nack (message : Option WireMessage) : Worker Unit := do
  match ← ask .nack with
  | some error => ask (.observe (.settlementFailed message (.wrap "nack rabbitmq delivery" error)))
  | none => pure ()

/-- Publish a message in place of the delivered one. -/
def replace (message settled : WireMessage) : Worker Bool := do
  match ← ask (.publish message) with
  | some error => do
      ask (.observe (.republishFailed message error))
      nack settled
      pure false
  | none => ack settled

/-- Settle a handled message: the last part of `processDelivery`. -/
def settle (incoming : WireMessage) : AttemptDecision -> Worker Unit
  | .succeeded => do
      if ← ack incoming then ask .commit
  | .failed => do
      if ← ack incoming then ask .commit
  | .redeliver => nack incoming
  | .retry => do
      let message ← nextAttempt incoming
      if ← replace message incoming then ask .commit

/-- A message whose time has come carries no time any more. -/
def due (incoming : WireMessage) : WireMessage :=
  if 0 < incoming.availableAtMS then { incoming with availableAtMS := 0 }
  else incoming

@[simp] theorem attempt_due : (due incoming).attempt = incoming.attempt := by
  unfold due
  split <;> rfl

@[simp] theorem maxRetry_due : (due incoming).maxRetry = incoming.maxRetry := by
  unfold due
  split <;> rfl

/-- `processDelivery` of a body, which may fail to decode. -/
def processDelivery : Option WireMessage -> Worker Unit
  | none => do
      let _ ← ack none
      pure ()
  | some incoming => do
      let wait ← remaining incoming
      if 0 < wait then
        let _ ← replace incoming incoming
        pure ()
      else
        let incoming := due incoming
        if ← ask (.lookup incoming.jobType) then
          let err ← ask (.handle incoming)
          settle incoming (classifyMessage incoming err)
        else
          let _ ← ack incoming
          pure ()

end RabbitMQ

/-! ## SQS -/

namespace SQS

/-- `deleteAndObserve`: whether the receipt was deleted. -/
def deleteAndObserve (message : Option WireMessage) : Worker Bool := do
  match ← ask .delete with
  | some error =>
    ask (.observe (.settlementFailed message (.wrap "delete sqs message" error)))
    pure false
  | none => pure true

/-- Publish a message in place of the delivered one, which stays undeleted if
that fails. -/
def replace (message settled : WireMessage) : Worker Bool := do
  match ← ask (.publish message) with
  | some error => do
      ask (.observe (.republishFailed message error))
      pure false
  | none => deleteAndObserve settled

/-- Settle a handled message: the last part of `process`. -/
def settle (incoming : WireMessage) : AttemptDecision -> Worker Unit
  | .succeeded => do
      if ← deleteAndObserve incoming then ask .commit
  | .failed => do
      if ← deleteAndObserve incoming then ask .commit
  | .redeliver => pure ()
  | .retry => do
      let message ← nextAttempt incoming
      if ← replace message incoming then ask .commit

/-- `process` of a body, which may be missing or fail to decode. -/
def process : Option WireMessage -> Worker Unit
  | none => do
      let _ ← deleteAndObserve none
      pure ()
  | some incoming => do
      let wait ← remaining incoming
      if 0 < wait then
        let _ ← replace incoming incoming
        pure ()
      else if ← ask (.lookup incoming.jobType) then
        let err ← ask (.handle incoming)
        settle incoming (classifyMessage incoming err)
      else
        let _ ← deleteAndObserve incoming
        pure ()

end SQS

/-! ## NATS -/

namespace NATS

/-- Publish a message again. -/
def republish (message : WireMessage) : Worker Unit := do
  match ← ask (.publish message) with
  | some error => ask (.observe (.republishFailed message error))
  | none => pure ()

/-- Settle a handled message: the last part of `processMessage`. -/
def settle (incoming : WireMessage) : AttemptDecision -> Worker Unit
  | .succeeded => pure ()
  | .failed => pure ()
  | .redeliver => republish { incoming with availableAtMS := 0 }
  | .retry => do
      let message ← nextAttempt incoming
      republish message

/-- `processMessage` of a body, which may fail to decode. -/
def processMessage : Option WireMessage -> Worker Unit
  | none => pure ()
  | some incoming => do
      let wait ← remaining incoming
      if 0 < wait then ask (.publishAfter wait incoming)
      else if ← ask (.lookup incoming.jobType) then
        let err ← ask (.handle incoming)
        settle incoming (classifyMessage incoming err)
      else pure ()

end NATS

/-! ## A reliable broker -/

/-- The brokers. -/
inductive BrokerKind
  | rabbitMQ
  | sqs
  | nats
  deriving DecidableEq, Repr

/-- The worker of each broker. -/
def BrokerKind.worker : BrokerKind -> Option WireMessage -> Worker Unit
  | .rabbitMQ => RabbitMQ.processDelivery
  | .sqs => SQS.process
  | .nats => NATS.processMessage

/-- Messages ready for delivery, messages on a timer, the message a worker is
settling and the last handler result. -/
structure Broker where
  ready : List WireMessage
  delayed : List WireMessage
  held : Option WireMessage
  last : Option (Option GoError)

/-- A message that was handed back or not settled is ready again. -/
def Broker.requeue (broker : Broker) : Broker :=
  { broker with ready := broker.ready ++ broker.held.toList, held := none }

/-- A broker with the handler results still to come and the attempts shown. -/
abbrev BrokerSession : Type := Session Broker Int (Option GoError)

/-- Change the broker of a session. -/
def onBroker (session : BrokerSession) (change : Broker -> Broker) : BrokerSession :=
  { session with state := change session.state }

/-- The time, by the handler results still to come: it passes while a handler
runs. -/
abbrev Clock : Type := List (Option GoError) -> Int

/-- The answers of a broker that never fails; the handler answers as long as
the script has results. -/
def reliable (clock : Clock) :
    (operation : Op) -> BrokerSession -> Option (operation.Answer × BrokerSession)
  | .now, session => some (clock session.script, session)
  | .lookup _, session => some (true, session)
  | .handle message, session =>
    match session.script with
    | [] => none
    | result :: rest =>
      some (result,
        { state := { session.state with last := some result }
          script := rest
          shown := session.shown ++ [message.attempt] })
  | .publish message, session =>
    some (none, onBroker session fun broker =>
      { broker with ready := broker.ready ++ [message] })
  | .publishAfter _ message, session =>
    some ((), onBroker session fun broker =>
      { broker with delayed := broker.delayed ++ [message] })
  | .ack, session => some (none, onBroker session fun broker => { broker with held := none })
  | .nack, session => some (none, onBroker session Broker.requeue)
  | .delete, session => some (none, onBroker session fun broker => { broker with held := none })
  | .commit, session => some ((), session)
  | .observe _, session => some ((), session)

/-- The settlement of each worker. -/
def BrokerKind.settle : BrokerKind -> WireMessage -> AttemptDecision -> Worker Unit
  | .rabbitMQ => RabbitMQ.settle
  | .sqs => SQS.settle
  | .nats => NATS.settle

/-- NATS forgets what it delivers; the other brokers keep it until it is
settled. -/
def BrokerKind.hold (kind : BrokerKind) (message : WireMessage) : Option WireMessage :=
  match kind with
  | .nats => none
  | _ => some message

/-- Deliver the next message; what its worker leaves unsettled is delivered
again. -/
def deliver (kind : BrokerKind) (clock : Clock) (session : BrokerSession) : Option BrokerSession :=
  match session.state.ready with
  | [] => none
  | message :: rest =>
    ((kind.worker (some message)).interpret (reliable clock) (onBroker session fun broker =>
        { broker with ready := rest, held := kind.hold message })).map
      fun ended => onBroker ended.2 Broker.requeue

/-- A timer runs out. -/
def fire (session : BrokerSession) : Option BrokerSession :=
  match session.state.delayed with
  | [] => none
  | message :: rest =>
    some (onBroker session fun broker =>
      { broker with ready := broker.ready ++ [message], delayed := rest })

/-- Deliveries at arbitrary times and timers. -/
inductive BrokerStep (kind : BrokerKind) : BrokerSession -> BrokerSession -> Prop
  | deliver {session next : BrokerSession} (clock : Clock)
      (delivered : deliver kind clock session = some next) :
      BrokerStep kind session next
  | fire {session next : BrokerSession}
      (fired : fire session = some next) : BrokerStep kind session next

/-- The one message of a job, or the verdict on its last result. -/
inductive BrokerProgress (maxRetry : Int) (broker : Broker) : Progress -> Prop
  | running {message : WireMessage} {attempt : Int} (settled : broker.held = none)
      (single : broker.ready ++ broker.delayed = [message]) (number : message.attempt = attempt)
      (budget : message.maxRetry = maxRetry) :
      BrokerProgress maxRetry broker (.running attempt)
  | stopped {result : Option GoError} (settled : broker.held = none)
      (empty : broker.ready ++ broker.delayed = []) (last : broker.last = some result) :
      BrokerProgress maxRetry broker (.stopped (if result = none then .succeeded else .failed))

/-- How the job ended, once no message of it is left. -/
def Broker.verdict (broker : Broker) : Option Verdict :=
  match broker.ready ++ broker.delayed, broker.last with
  | [], some none => some .succeeded
  | [], some (some _) => some .failed
  | _, _ => none

theorem BrokerProgress.verdict_eq (current : BrokerProgress maxRetry broker progress) :
    broker.verdict = progress.verdict := by
  cases current with
  | running settled single number budget => simp [Broker.verdict, single, Progress.verdict]
  | @stopped result settled empty last =>
    cases result <;> simp [Broker.verdict, empty, last, Progress.verdict]

/-! ## Deliveries -/

/-- The message waits for its time. -/
def WireMessage.Early (message : WireMessage) (now : Int) : Prop :=
  0 < message.availableAtMS ∧ now < message.availableAtMS

instance (message : WireMessage) (now : Int) : Decidable (message.Early now) :=
  inferInstanceAs (Decidable (_ ∧ _))

/-- A session with one message, ready for delivery. -/
def readySession (message : WireMessage) (last : Option (Option GoError))
    (script : List (Option GoError)) (shown : List Int) : BrokerSession :=
  { state := { ready := [message], delayed := [], held := none, last := last }
    script := script
    shown := shown }

theorem interpret_remaining (clock : Clock) (message : WireMessage) (session : BrokerSession) :
    ∃ wait, (remaining message).interpret (reliable clock) session = some (wait, session) ∧
      (0 < wait ↔ message.Early (clock session.script)) := by
  unfold remaining WireMessage.Early
  split
  · exact ⟨message.availableAtMS - clock session.script, rfl, by omega⟩
  · exact ⟨0, rfl, by omega⟩

theorem interpret_nextAttempt (clock : Clock) (message : WireMessage) (session : BrokerSession) :
    ∃ next, (nextAttempt message).interpret (reliable clock) session = some (next, session) ∧
      next.attempt = message.attempt + 1 ∧ next.maxRetry = message.maxRetry := by
  simp only [nextAttempt]
  split
  · exact ⟨_, rfl, rfl, rfl⟩
  · exact ⟨_, rfl, rfl, rfl⟩

/-- What a settlement leaves of a job: its one message, or nothing. -/
theorem interpret_settle (kind : BrokerKind) (clock : Clock) {incoming message : WireMessage}
    (attempt : message.attempt = incoming.attempt) (budget : message.maxRetry = incoming.maxRetry)
    (result : Option GoError) (script : List (Option GoError)) (shown : List Int) :
    ∃ broker, (kind.settle incoming (classifyMessage incoming result)).interpret (reliable clock)
          { state :=
              { ready := [], delayed := [], held := kind.hold message, last := some result }
            script := script
            shown := shown } =
        some ((), { state := broker, script := script, shown := shown }) ∧
      BrokerProgress incoming.maxRetry broker.requeue
        (settleAttempt incoming.maxRetry incoming.attempt result) := by
  rw [settleAttempt, classifyMessage]
  cases decided : classifyAttempt
      { number := incoming.attempt, maxRetry := incoming.maxRetry } result with
  | succeeded =>
    obtain rfl := (classifyAttempt_eq_succeeded_iff _ _).mp decided
    refine ⟨⟨[], [], none, some none⟩, ?_, @BrokerProgress.stopped _ _ none rfl rfl rfl⟩
    cases kind <;> simp [BrokerKind.settle, RabbitMQ.settle, SQS.settle, NATS.settle, RabbitMQ.ack,
      SQS.deleteAndObserve, ask, reliable, onBroker, BrokerKind.hold]
  | failed =>
    cases result with
    | none => cases decided
    | some error =>
      refine ⟨⟨[], [], none, some (some error)⟩, ?_,
        @BrokerProgress.stopped _ _ (some error) rfl rfl rfl⟩
      cases kind <;> simp [BrokerKind.settle, RabbitMQ.settle, SQS.settle, NATS.settle,
        RabbitMQ.ack, SQS.deleteAndObserve, ask, reliable, onBroker, BrokerKind.hold]
  | redeliver =>
    cases kind with
    | rabbitMQ => exact ⟨⟨[message], [], none, some result⟩, rfl, .running rfl rfl attempt budget⟩
    | sqs => exact ⟨⟨[], [], some message, some result⟩, rfl, .running rfl rfl attempt budget⟩
    | nats =>
      exact ⟨⟨[{ incoming with availableAtMS := 0 }], [], none,
        some result⟩, rfl, .running rfl rfl rfl rfl⟩
  | retry =>
    obtain ⟨next, made, number, kept⟩ := interpret_nextAttempt clock incoming
      ⟨⟨[], [], kind.hold message, some result⟩, script, shown⟩
    refine ⟨⟨[next], [], none, some result⟩, ?_, .running rfl rfl number kept⟩
    cases kind with
    | rabbitMQ =>
      simp only [BrokerKind.settle, RabbitMQ.settle, Prog.interpret_bind]
      rw [made]
      rfl
    | sqs =>
      simp only [BrokerKind.settle, SQS.settle, Prog.interpret_bind]
      rw [made]
      rfl
    | nats =>
      simp only [BrokerKind.settle, NATS.settle, Prog.interpret_bind]
      rw [made]
      rfl

/-- A message that comes too early is still the one message of its job. -/
theorem deliver_early (kind : BrokerKind) (early : message.Early (clock script))
    (last : Option (Option GoError)) (shown : List Int) :
    ∃ broker, deliver kind clock (readySession message last script shown) =
        some { state := broker, script := script, shown := shown } ∧
      BrokerProgress message.maxRetry broker (.running message.attempt) := by
  obtain ⟨wait, waits, positive⟩ := interpret_remaining clock message
    (onBroker (readySession message last script shown) fun broker =>
      { broker with ready := [], held := kind.hold message })
  have waiting := positive.mpr early
  cases kind with
  | rabbitMQ =>
    refine ⟨⟨[message], [], none, last⟩, ?_, .running rfl rfl rfl rfl⟩
    simp only [deliver, readySession, BrokerKind.worker,
      RabbitMQ.processDelivery, Prog.interpret_bind] at waits ⊢
    rw [waits]
    simp [waiting, RabbitMQ.replace, RabbitMQ.ack, ask, reliable, onBroker, Broker.requeue]
  | sqs =>
    refine ⟨⟨[message], [], none, last⟩, ?_, .running rfl rfl rfl rfl⟩
    simp only [deliver, readySession, BrokerKind.worker,
      SQS.process, Prog.interpret_bind] at waits ⊢
    rw [waits]
    simp [waiting, SQS.replace, SQS.deleteAndObserve, ask, reliable, onBroker, Broker.requeue]
  | nats =>
    refine ⟨⟨[], [message], none, last⟩, ?_, .running rfl rfl rfl rfl⟩
    simp only [deliver, readySession, BrokerKind.worker,
      NATS.processMessage, Prog.interpret_bind] at waits ⊢
    rw [waits]
    simp [waiting, ask, reliable, onBroker, BrokerKind.hold, Broker.requeue]

/-- Without a handler result a due message is not settled. -/
theorem deliver_due_nil (due : ¬message.Early (clock [])) :
    deliver kind clock (readySession message last [] shown) = none := by
  obtain ⟨wait, waits, positive⟩ := interpret_remaining clock message
    (onBroker (readySession message last [] shown) fun broker =>
      { broker with ready := [], held := kind.hold message })
  have passed : ¬0 < wait := fun waiting => due (positive.mp waiting)
  cases kind with
  | rabbitMQ =>
    simp only [deliver, readySession, BrokerKind.worker,
      RabbitMQ.processDelivery, Prog.interpret_bind] at waits ⊢
    rw [waits]
    simp [passed, ask, reliable, onBroker]
  | sqs =>
    simp only [deliver, readySession, BrokerKind.worker,
      SQS.process, Prog.interpret_bind] at waits ⊢
    rw [waits]
    simp [passed, ask, reliable, onBroker]
  | nats =>
    simp only [deliver, readySession, BrokerKind.worker,
      NATS.processMessage, Prog.interpret_bind] at waits ⊢
    rw [waits]
    simp [passed, ask, reliable, onBroker]

/-- A due message is shown to the handler and settled by its result. -/
theorem deliver_due (kind : BrokerKind) (due : ¬message.Early (clock (result :: rest)))
    (last : Option (Option GoError)) (shown : List Int) :
    ∃ broker, deliver kind clock (readySession message last (result :: rest) shown) = some
          { state := broker, script := rest, shown := shown ++ [message.attempt] } ∧
      BrokerProgress message.maxRetry broker
        (settleAttempt message.maxRetry message.attempt result) := by
  obtain ⟨wait, waits, positive⟩ := interpret_remaining clock message
    (onBroker (readySession message last (result :: rest) shown) fun broker =>
      { broker with ready := [], held := kind.hold message })
  have passed : ¬0 < wait := fun waiting => due (positive.mp waiting)
  cases kind with
  | rabbitMQ =>
    obtain ⟨broker, settled, current⟩ := interpret_settle .rabbitMQ clock RabbitMQ.attempt_due.symm
      RabbitMQ.maxRetry_due.symm result rest (shown ++ [message.attempt])
    rw [RabbitMQ.attempt_due, RabbitMQ.maxRetry_due] at current
    refine ⟨broker.requeue, ?_, current⟩
    simp only [deliver, readySession, BrokerKind.worker,
      RabbitMQ.processDelivery, Prog.interpret_bind] at waits ⊢
    rw [waits]
    simp only [BrokerKind.settle] at settled
    simp [passed, ask, reliable, onBroker, settled]
  | sqs =>
    obtain ⟨broker, settled, current⟩ := @interpret_settle .sqs clock
      message message rfl rfl result rest (shown ++ [message.attempt])
    refine ⟨broker.requeue, ?_, current⟩
    simp only [deliver, readySession, BrokerKind.worker,
      SQS.process, Prog.interpret_bind] at waits ⊢
    rw [waits]
    simp only [BrokerKind.settle] at settled
    simp [passed, ask, reliable, onBroker, settled]
  | nats =>
    obtain ⟨broker, settled, current⟩ := @interpret_settle .nats clock
      message message rfl rfl result rest (shown ++ [message.attempt])
    refine ⟨broker.requeue, ?_, current⟩
    simp only [deliver, readySession, BrokerKind.worker,
      NATS.processMessage, Prog.interpret_bind] at waits ⊢
    rw [waits]
    simp only [BrokerKind.settle] at settled
    simp [passed, ask, reliable, onBroker, settled]

/-! ## Runs -/

/-- The broker of a session is where the protocol is. -/
def brokerProgress (maxRetry : Int) (session : BrokerSession) : Progress -> Prop :=
  BrokerProgress maxRetry session.state

/-- A session with one message that is not on a timer. -/
theorem eq_readySession (settled : session.state.held = none)
    (ready : session.state.ready = [message]) (delayed : session.state.delayed = []) :
    session = readySession message session.state.last session.script session.shown := by
  obtain ⟨⟨_, _, _, _⟩, _, _⟩ := session
  cases settled
  cases ready
  cases delayed
  rfl

/-- A timer moves the one message of a job. -/
theorem fire_delayed (settled : session.state.held = none) (ready : session.state.ready = [])
    (delayed : session.state.delayed = [message]) :
    fire session = some (readySession message session.state.last session.script session.shown) := by
  obtain ⟨⟨_, _, _, _⟩, _, _⟩ := session
  cases settled
  cases ready
  cases delayed
  rfl

/-- The one message is ready or on a timer. -/
theorem single_cases (single : ready ++ delayed = [message]) :
    (ready = [message] ∧ delayed = []) ∨ (ready = [] ∧ delayed = [message]) := by
  rcases List.append_eq_singleton_iff.mp single with ⟨none_ready, one⟩ | ⟨one, none_delayed⟩
  · exact .inr ⟨none_ready, one⟩
  · exact .inl ⟨one, none_delayed⟩

/-- Every broker driver runs the attempt protocol. -/
theorem broker_implements :
    Implements (attempts maxRetry) (BrokerStep kind) (brokerProgress maxRetry) where
  sound := by
    intro session next state current step
    cases current with
    | @running message attempt settled single number budget =>
      subst number budget
      rcases single_cases single with ⟨ready, delayed⟩ | ⟨ready, delayed⟩
      · have same := eq_readySession settled ready delayed
        cases step with
        | deliver clock delivered =>
          rw [same] at delivered
          by_cases early : message.Early (clock session.script)
          · obtain ⟨broker, given, kept⟩ := deliver_early kind early
              session.state.last session.shown
            rw [given] at delivered
            cases delivered
            exact .inl ⟨rfl, rfl, kept⟩
          · cases script : session.script with
            | nil =>
              rw [script] at early delivered
              rw [deliver_due_nil early] at delivered
              cases delivered
            | cons result rest =>
              rw [script] at early delivered
              obtain ⟨broker, given, moved⟩ := deliver_due kind early
                session.state.last session.shown
              rw [given] at delivered
              cases delivered
              exact .inr ⟨_, result, rfl, rfl, rfl, moved⟩
        | fire fired =>
          rw [fire, delayed] at fired
          cases fired
      · cases step with
        | deliver clock delivered =>
          rw [deliver, ready] at delivered
          cases delivered
        | fire fired =>
          rw [fire_delayed settled ready delayed] at fired
          cases fired
          exact .inl ⟨rfl, rfl, .running rfl rfl rfl rfl⟩
    | stopped settled empty last =>
      obtain ⟨ready, delayed⟩ := List.append_eq_nil_iff.mp empty
      cases step with
      | deliver clock delivered =>
        rw [deliver, ready] at delivered
        cases delivered
      | fire fired =>
        rw [fire, delayed] at fired
        cases fired
  live := by
    intro session state value result rest current shows script
    cases current with
    | @running message attempt settled single number budget =>
      subst number budget
      cases shows
      -- The message is delivered when its time has come.
      let clock : Clock := fun _ => message.availableAtMS
      have due : ¬message.Early (clock (result :: rest)) := fun early => Int.lt_irrefl _ early.2
      obtain ⟨broker, given, moved⟩ := deliver_due kind due session.state.last session.shown
      rw [← script] at given
      refine ⟨⟨broker, rest, _⟩, ?_, rfl, rfl, moved⟩
      rcases single_cases single with ⟨ready, delayed⟩ | ⟨ready, delayed⟩
      · rw [← eq_readySession settled ready delayed] at given
        exact .single (.deliver _ given)
      · exact .tail (.single (.fire (fire_delayed settled ready delayed))) (.deliver _ given)
    | stopped settled empty last => cases shows

end JobQueue.Drivers
