import JobQueue.Drivers.Brokers
import JobQueue.Interleaving.Log
import Mathlib.Data.List.Infix

/-!
# Dispatch to RabbitMQ

`Dispatch` takes a uniqueness claim, publishes the message on an open channel
and waits for the broker to confirm it. An error after which the broker may
hold the message is marked as ambiguous: it is not published again and keeps
the claim.

The context of the caller is looked at three times. The last look falls
between the publish and the confirmation, and what it returns is not marked.
-/

namespace JobQueue.Drivers.RabbitDispatch

open Interleaving

/-- Why a context is done. -/
inductive ContextError
  | canceled
  | deadlineExceeded
  deriving DecidableEq, Repr

/-- The error value of a context that is done. -/
def ContextError.error : ContextError -> GoError
  | .canceled => .sentinel "context canceled"
  | .deadlineExceeded => .sentinel "context deadline exceeded"

/-- Where the context of the caller is looked at. -/
inductive Moment
  | beforeDispatch
  | beforePublish
  | beforeConfirmation
  deriving DecidableEq, Repr

/-- What the channel answers to a publish: an error, or a message on its way
with or without a confirmation to wait for. -/
inductive Published
  | failed (error : GoError)
  | sent (confirmation : Bool)
  deriving DecidableEq, Repr

/-- An error of a publish, marked if the broker may hold the message. -/
inductive PublishError
  | definite (error : GoError)
  /-- `rabbitPublishAmbiguousError`. -/
  | ambiguous (cause : GoError)
  deriving DecidableEq, Repr

/-- A job as the driver sees it: the result of its validation, its options and
the key of its logical identity. -/
structure DispatchJob where
  jobType : String
  payload : List UInt8
  invalid : Option GoError
  options : DriverJobOptions
  uniqueTTL : Int
  uniqueKey : String
  deriving DecidableEq, Repr

/-- Operations of a dispatch. -/
inductive Op
  | contextErr (moment : Moment)
  | acquire (key : String)
  | release (key : String) (token : Nat)
  | now
  /-- Encode the message for the wire. -/
  | marshal (message : WireMessage)
  | connected
  | dial
  | openChannel
  | confirmMode
  | close
  | channelClosed
  | queueDeclare (queueName : String)
  | publish (queueName : String) (message : WireMessage)
  | waitConfirmation
  deriving DecidableEq, Repr

/-- What an operation answers. -/
@[reducible] def Op.Answer : Op -> Type
  | .contextErr _ => Option ContextError
  | .acquire _ => Option Nat
  | .release _ _ => Unit
  | .now => Int
  | .marshal _ => Option GoError
  | .connected => Bool
  | .dial => Option GoError
  | .openChannel => Option GoError
  | .confirmMode => Option GoError
  | .close => Unit
  | .channelClosed => Bool
  | .queueDeclare _ => Option GoError
  | .publish _ _ => Published
  | .waitConfirmation => Except GoError Bool

instance : (operation : Op) -> DecidableEq operation.Answer
  | .contextErr _ => inferInstanceAs (DecidableEq (Option ContextError))
  | .acquire _ => inferInstanceAs (DecidableEq (Option Nat))
  | .release _ _ => inferInstanceAs (DecidableEq Unit)
  | .now => inferInstanceAs (DecidableEq Int)
  | .marshal _ => inferInstanceAs (DecidableEq (Option GoError))
  | .connected => inferInstanceAs (DecidableEq Bool)
  | .dial => inferInstanceAs (DecidableEq (Option GoError))
  | .openChannel => inferInstanceAs (DecidableEq (Option GoError))
  | .confirmMode => inferInstanceAs (DecidableEq (Option GoError))
  | .close => inferInstanceAs (DecidableEq Unit)
  | .channelClosed => inferInstanceAs (DecidableEq Bool)
  | .queueDeclare _ => inferInstanceAs (DecidableEq (Option GoError))
  | .publish _ _ => inferInstanceAs (DecidableEq Published)
  | .waitConfirmation => inferInstanceAs (DecidableEq (Except GoError Bool))

/-- Programs of a dispatcher. -/
abbrev Dispatcher : Type -> Type := Prog Op Op.Answer

/-- Perform one operation. -/
def ask (operation : Op) : Dispatcher operation.Answer :=
  Prog.perform operation

/-! ## The code -/

/-- The text of `amqp.ErrClosed`. -/
def closedText : String :=
  "Exception (504) Reason: \"channel/connection is not open\""

/-- The error of a closed channel. -/
def errClosed : GoError := .sentinel closedText

/-- `queuecore.ErrDuplicate`. -/
def errDuplicate : GoError := .sentinel "duplicate job"

/-- The broker may have the message. -/
def isRabbitPublishAmbiguous : PublishError -> Bool
  | .definite _ => false
  | .ambiguous _ => true

/-- The underlying error. -/
def PublishError.cause : PublishError -> GoError
  | .definite error => error
  | .ambiguous cause => cause

/-- The transport was closed before the publish. -/
def isRabbitConnectionClosed (err : PublishError) : Bool :=
  err.cause.isSentinel closedText || decide ("channel/connection is not open".toList <:+:
      err.cause.message.toLower.toList)

/-- Open a connection with a channel in confirm mode unless there is one. -/
def ensureConnectedLocked : Dispatcher (Option PublishError) := do
  if ← ask .connected then return none
  ask .close
  match ← ask .dial with
  | some error => return some (.definite error)
  | none =>
    match ← ask .openChannel with
    | some error =>
      ask .close
      return some (.definite error)
    | none =>
      match ← ask .confirmMode with
      | some error =>
        ask .close
        return some (.definite error)
      | none => return none

/-- Wait for the broker, unless the context is done or there is nothing to wait
for. -/
def awaitRabbitConfirmation (confirmation : Bool) : Dispatcher (Option PublishError) := do
  match ← ask (.contextErr .beforeConfirmation) with
  | some done => return some (.definite done.error)
  | none =>
    if ¬confirmation then
      return some (.ambiguous (.text "rabbitmq publish returned no confirmation"))
    match ← ask .waitConfirmation with
    | .error error =>
      return some (.ambiguous (.wrap "wait for rabbitmq publish confirmation" error))
    | .ok false => return some (.definite (.text "rabbitmq broker rejected publish"))
    | .ok true => return none

/-- Wait for the confirmation. -/
def completeRabbitPublish : Published -> Dispatcher (Option PublishError)
  | .failed publishErr => return some (.ambiguous publishErr)
  | .sent confirmation => awaitRabbitConfirmation confirmation

/-- Publish unless the context is done. -/
def publishRabbitConfirmed (queueName : String) (message : WireMessage) :
    Dispatcher (Option PublishError) := do
  match ← ask (.contextErr .beforePublish) with
  | some done => return some (.definite done.error)
  | none =>
    let published ← ask (.publish queueName message)
    completeRabbitPublish published

/-- Declare the queue and publish. -/
def enqueueLocked (queueName : String) (message : WireMessage) :
    Dispatcher (Option PublishError) := do
  if ← ask .channelClosed then return some (.definite errClosed)
  match ← ask (.queueDeclare queueName) with
  | some error => return some (.definite error)
  | none => publishRabbitConfirmed queueName message

/-- Publish once more if the transport was already closed. -/
def retryRabbitPublish (ensureConnected publish : Dispatcher (Option PublishError))
    (closeConnection : Dispatcher Unit) :
    Dispatcher (Option PublishError) := do
  match ← ensureConnected with
  | some err => return some err
  | none =>
    match ← publish with
    | none => return none
    | some err =>
      if isRabbitPublishAmbiguous err then return some err
      if ¬isRabbitConnectionClosed err then return some err
      closeConnection
      match ← ensureConnected with
      | some reconnectErr => return some reconnectErr
      | none => publish

/-- Enqueue, reconnecting once. -/
def enqueueWithReconnectLocked (queueName : String) (message : WireMessage) :
    Dispatcher (Option PublishError) :=
  retryRabbitPublish ensureConnectedLocked (enqueueLocked queueName message) (ask .close)

/-- The claim of a job that is to be unique: its key and token, or nothing if
there is a live one. -/
def claimUnique (job : DispatchJob) : Dispatcher (Option (String × Nat)) := do
  if 0 < job.uniqueTTL then
    let token ← ask (.acquire job.uniqueKey)
    return token.map fun token => (job.uniqueKey, token)
  else return some ("", 0)

/-- `rabbitPhysicalQueueName` of a validated queue name and a default. -/
def rabbitPhysicalQueueName (defaultQueue messageQueue : String) : String :=
  if messageQueue ≠ "" then messageQueue
  else if defaultQueue ≠ "" then defaultQueue
  else "default"

/-- Publish the encoded message under a claim, which a definite rejection gives
back. -/
def dispatchClaimed (defaultQueue : String) (job : DispatchJob) (claim : String × Nat) :
    Dispatcher (Option GoError) := do
  let now ← ask .now
  let message := { messageForJob now job.jobType job.options with payload := job.payload }
  match ← ask (.marshal message) with
  | some error =>
    ask (.release claim.1 claim.2)
    return some error
  | none =>
    match ← enqueueWithReconnectLocked
        (rabbitPhysicalQueueName defaultQueue job.options.queueName)
        message with
    | none => return none
    | some err =>
      if ¬isRabbitPublishAmbiguous err then
        ask (.release claim.1 claim.2)
      return some err.cause

/-- `Dispatch`. -/
def dispatch (defaultQueue : String) (job : DispatchJob) : Dispatcher (Option GoError) := do
  match ← ask (.contextErr .beforeDispatch) with
  | some done => return some done.error
  | none =>
    if job.invalid.isSome then return job.invalid
    if job.options.queueName = "" then
      return some (.text "job queue is required")
    match ← claimUnique job with
    | none => return some errDuplicate
    | some claim => dispatchClaimed defaultQueue job claim

/-! ## What a dispatch leaves behind -/

/-- The log of a dispatch. -/
abbrev Log : Type := List (Entry Op Op.Answer)

/-- Operations that neither touch the claim nor tell of a publish. -/
def Op.silent : Op -> Prop
  | .acquire _ => False
  | .release _ _ => False
  | .publish _ _ => False
  | .waitConfirmation => False
  | .contextErr moment => moment ≠ .beforeConfirmation
  | _ => True

/-- Nothing in the log is about a publish or the claim. -/
def Silent (log : Log) : Prop := ∀ entry ∈ log, entry.1.silent

theorem Silent.append (silentFirst : Silent first) (silentSecond : Silent second) :
    Silent (first ++ second) := by
  intro entry member
  rcases List.mem_append.mp member with earlier | later
  · exact silentFirst entry earlier
  · exact silentSecond entry later

/-- How a message that left the channel is answered. -/
inductive Answered : Published -> Log -> Option PublishError -> Prop
  | failed (error : GoError) : Answered (.failed error) [] (some (.ambiguous error))
  | interrupted (confirmation : Bool) (done : ContextError) :
      Answered (.sent confirmation) [⟨.contextErr .beforeConfirmation, some done⟩]
        (some (.definite done.error))
  | missing (cause : GoError) :
      Answered (.sent false) [⟨.contextErr .beforeConfirmation, none⟩] (some (.ambiguous cause))
  | lost (error cause : GoError) :
      Answered (.sent true)
        [⟨.contextErr .beforeConfirmation, none⟩, ⟨.waitConfirmation, .error error⟩]
        (some (.ambiguous cause))
  | rejected :
      Answered (.sent true)
        [⟨.contextErr .beforeConfirmation, none⟩, ⟨.waitConfirmation, .ok false⟩]
        (some (.definite (.text "rabbitmq broker rejected publish")))
  | confirmed :
      Answered (.sent true)
        [⟨.contextErr .beforeConfirmation, none⟩, ⟨.waitConfirmation, .ok true⟩] none

/-- An attempt to publish ends before the publish or with its answer. -/
inductive Attempt : Log -> Option PublishError -> Prop
  | unsent {log : Log} (silent : Silent log) (error : GoError) :
      Attempt log (some (.definite error))
  | sent {before after : Log} {result : Option PublishError}
      (silent : Silent before) (queueName : String) (message : WireMessage)
      (published : Published) (answered : Answered published after result) :
      Attempt (before ++ ⟨.publish queueName message, published⟩ :: after) result

theorem Attempt.after (silent : Silent before) (attempt : Attempt log result) :
    Attempt (before ++ log) result := by
  cases attempt with
  | unsent rest error => exact .unsent (silent.append rest) error
  | sent rest queueName message published answered =>
    rw [← List.append_assoc]
    exact .sent (silent.append rest) queueName message published answered

theorem ensures_ask_silent (silent : operation.silent) :
    Ensures environment (ask operation) fun log _ => Silent log := by
  refine Ensures.weaken Ensures.logged fun log answer same => ?_
  rintro entry member
  rw [same, List.mem_singleton] at member
  rw [member]
  exact silent

/-- Silent operations can be skipped in a log of which more may precede. -/
theorem ensures_silently {ρ : Type} (silent : operation.silent)
    {second : operation.Answer -> Dispatcher ρ} {post : Log -> ρ -> Prop}
    (extend : ∀ before log result, Silent before -> post log result -> post (before ++ log) result)
    (rest : ∀ answer, Ensures environment (second answer) post) :
    Ensures environment (ask operation >>= second) post :=
  Ensures.bind (ensures_ask_silent silent) fun before answer quiet =>
    Ensures.weaken (rest answer) fun log result met =>
      extend before log result quiet met

/-- Nothing was published, and what went wrong is known. -/
structure Unsent (log : Log) (result : Option PublishError) : Prop where
  silent : Silent log
  definite : ∀ err, result = some err -> ∃ error, err = .definite error

theorem Unsent.after (before log : Log) (result : Option PublishError)
    (silent : Silent before) (unsent : Unsent log result) :
    Unsent (before ++ log) result :=
  ⟨silent.append unsent.silent, unsent.definite⟩

theorem unsent_nil : Unsent [] none :=
  ⟨by simp [Silent], by simp⟩

theorem unsent_definite (error : GoError) : Unsent [] (some (.definite error)) :=
  ⟨by simp [Silent], by simp⟩

theorem ensures_ensureConnectedLocked : Ensures environment ensureConnectedLocked Unsent := by
  unfold ensureConnectedLocked
  refine ensures_silently (by trivial) Unsent.after fun connected => ?_
  split
  · exact Ensures.ret unsent_nil
  refine ensures_silently (by trivial) Unsent.after fun _ => ?_
  refine ensures_silently (by trivial) Unsent.after fun dialled => ?_
  cases dialled with
  | some error => exact Ensures.ret (unsent_definite error)
  | none =>
    refine ensures_silently (by trivial) Unsent.after fun opened => ?_
    cases opened with
    | some error =>
      refine ensures_silently (by trivial) Unsent.after fun _ => ?_
      exact Ensures.ret (unsent_definite error)
    | none =>
      refine ensures_silently (by trivial) Unsent.after fun confirming => ?_
      cases confirming with
      | some error =>
        refine ensures_silently (by trivial) Unsent.after fun _ => ?_
        exact Ensures.ret (unsent_definite error)
      | none => exact Ensures.ret unsent_nil

theorem ensures_completeRabbitPublish :
    Ensures environment (completeRabbitPublish published) (Answered published) := by
  cases published with
  | failed error => exact Ensures.ret (.failed error)
  | sent confirmation =>
    refine Ensures.bind Ensures.logged ?_
    rintro _ (_ | done) rfl
    · cases confirmation with
      | false => exact Ensures.ret (.missing _)
      | true =>
        refine Ensures.bind Ensures.logged ?_
        rintro _ (error | _ | _) rfl
        · exact Ensures.ret (.lost error _)
        · exact Ensures.ret .rejected
        · exact Ensures.ret .confirmed
    · exact Ensures.ret (.interrupted confirmation done)

theorem attempt_unsent : Attempt [] (some (.definite error)) :=
  .unsent (by simp [Silent]) error

theorem ensures_enqueueLocked : Ensures environment (enqueueLocked queueName message) Attempt := by
  have extend : ∀ before log result, Silent before ->
      Attempt log result -> Attempt (before ++ log) result :=
    fun _ _ _ => Attempt.after
  unfold enqueueLocked publishRabbitConfirmed
  refine ensures_silently (by trivial) extend fun closed => ?_
  split
  · exact Ensures.ret attempt_unsent
  refine ensures_silently (by trivial) extend fun declared => ?_
  cases declared with
  | some error => exact Ensures.ret attempt_unsent
  | none =>
    refine ensures_silently (by simp [Op.silent]) extend fun done => ?_
    cases done with
    | some done => exact Ensures.ret attempt_unsent
    | none =>
      refine Ensures.bind Ensures.logged ?_
      rintro _ published rfl
      refine Ensures.weaken ensures_completeRabbitPublish ?_
      intro after result answered
      have silent : Silent [] := by simp [Silent]
      exact .sent silent queueName message published answered

/-- Only an attempt that published nothing finds the transport closed. -/
theorem Answered.open (answered : Answered published after (some err))
    (definite : isRabbitPublishAmbiguous err = false) :
    isRabbitConnectionClosed err = false := by
  cases answered with
  | failed | missing | lost => cases definite
  | interrupted confirmation done => cases done <;> decide +kernel
  | rejected => decide +kernel

/-- A reconnect comes only after an attempt that published nothing. -/
theorem ensures_enqueueWithReconnectLocked :
    Ensures environment (enqueueWithReconnectLocked queueName message) Attempt := by
  unfold enqueueWithReconnectLocked retryRabbitPublish
  refine Ensures.bind ensures_ensureConnectedLocked ?_
  rintro before (_ | err) connected
  · refine Ensures.bind ensures_enqueueLocked ?_
    rintro log (_ | err) attempt
    · exact Ensures.ret (by simpa using attempt.after connected.silent)
    · dsimp only
      split
      · exact Ensures.ret (by simpa using attempt.after connected.silent)
      · rename_i definite
        split
        · exact Ensures.ret (by simpa using attempt.after connected.silent)
        · rename_i closed
          rw [Bool.not_eq_true] at definite
          rw [Bool.not_eq_true, Bool.not_eq_false] at closed
          cases attempt with
          | sent silent queueName message published answered =>
            rw [answered.open definite] at closed
            cases closed
          | unsent silent error =>
            refine Ensures.bind (ensures_ask_silent (by trivial)) ?_
            intro closing _ quiet
            have earlier := (connected.silent.append silent).append quiet
            refine Ensures.bind ensures_ensureConnectedLocked ?_
            rintro again (_ | reconnectErr) reconnected
            · refine Ensures.weaken ensures_enqueueLocked fun later result attempt => ?_
              have all := attempt.after (earlier.append reconnected.silent)
              simpa [List.append_assoc] using all
            · obtain ⟨error, rfl⟩ := reconnected.definite _ rfl
              refine Ensures.ret (.unsent ?_ error)
              simpa [List.append_assoc] using earlier.append reconnected.silent
  · obtain ⟨error, rfl⟩ := connected.definite _ rfl
    exact Ensures.ret (.unsent (by simpa using connected.silent) error)

/-! ## The claim of a dispatch -/

/-- The answers to the publishes of a dispatch. -/
def publishes (log : Log) : List Published :=
  log.filterMap fun entry =>
    match entry with
    | ⟨.publish _ _, published⟩ => some published
    | _ => none

/-- The broker refused the message. -/
def Rejected (log : Log) : Prop := ⟨.waitConfirmation, .ok false⟩ ∈ log

/-- A publish failed, or it did not and the broker has not refused it. -/
def MayHaveAccepted (log : Log) : Prop :=
  (∃ error, .failed error ∈ publishes log) ∨
    ((∃ confirmation, .sent confirmation ∈ publishes log) ∧ ¬Rejected log)

/-- The claim stays with a message that the broker may hold, of which there is
one copy, and is given back otherwise. -/
structure KeepsClaim (key : String) (token : Nat) (log : Log) : Prop where
  kept : MayHaveAccepted log -> (publishes log).length ≤ 1 ∧ ⟨.release key token, ()⟩ ∉ log
  released : ¬MayHaveAccepted log -> ⟨.release key token, ()⟩ ∈ log

/-- The context of the caller was done between a publish and its
confirmation. -/
def Interrupted (log : Log) : Prop :=
  ∃ done, ⟨.contextErr .beforeConfirmation, some done⟩ ∈ log

/-- Nothing in the log tells of a publish, its answer or a release. -/
structure Neutral (log : Log) : Prop where
  publishes_eq : publishes log = []
  not_rejected : ¬Rejected log
  not_interrupted : ¬Interrupted log
  not_released : ∀ key token, ⟨.release key token, ()⟩ ∉ log

theorem Silent.neutral (silent : Silent log) : Neutral log where
  publishes_eq := by
    refine List.filterMap_eq_nil_iff.mpr ?_
    rintro ⟨operation, answer⟩ member
    have quiet := silent _ member
    cases operation <;> first | rfl | exact quiet.elim
  not_rejected := fun rejected => silent _ rejected
  not_interrupted := fun ⟨_, interrupted⟩ => silent _ interrupted rfl
  not_released := fun _ _ released => silent _ released

theorem Neutral.append (neutralFirst : Neutral first) (neutralSecond : Neutral second) :
    Neutral (first ++ second) where
  publishes_eq := by
    have split : publishes (first ++ second) =
        publishes first ++ publishes second := List.filterMap_append
    rw [split, neutralFirst.publishes_eq, neutralSecond.publishes_eq]
    rfl
  not_rejected := by
    intro rejected
    rcases List.mem_append.mp rejected with earlier | later
    · exact neutralFirst.not_rejected earlier
    · exact neutralSecond.not_rejected later
  not_interrupted := by
    rintro ⟨done, interrupted⟩
    rcases List.mem_append.mp interrupted with earlier | later
    · exact neutralFirst.not_interrupted ⟨done, earlier⟩
    · exact neutralSecond.not_interrupted ⟨done, later⟩
  not_released := by
    intro key token released
    rcases List.mem_append.mp released with earlier | later
    · exact neutralFirst.not_released key token earlier
    · exact neutralSecond.not_released key token later

theorem neutral_acquire (key : String) (token : Option Nat) : Neutral [⟨.acquire key, token⟩] := by
  constructor <;> simp [publishes, Rejected, Interrupted]

/-- What follows a publish under a claim: the claim is given back after an
error that is not marked. -/
def compensation (claim : String × Nat) (result : Option PublishError) : Log :=
  match result with
  | some (.definite _) => [⟨.release claim.1 claim.2, ()⟩]
  | _ => []

section Neutral

variable (neutral : Neutral before)
include neutral

theorem publishes_neutral : publishes (before ++ log) = publishes log := by
  have split : publishes (before ++ log) = publishes before ++ publishes log :=
    List.filterMap_append
  rw [split, neutral.publishes_eq]
  rfl

theorem rejected_neutral : Rejected (before ++ log) ↔ Rejected log := by
  simp only [Rejected, List.mem_append]
  exact or_iff_right neutral.not_rejected

theorem interrupted_neutral (log : Log) : Interrupted (before ++ log) ↔ Interrupted log := by
  simp only [Interrupted, List.mem_append]
  constructor
  · rintro ⟨done, earlier | later⟩
    · exact absurd ⟨done, earlier⟩ neutral.not_interrupted
    · exact ⟨done, later⟩
  · rintro ⟨done, later⟩
    exact ⟨done, .inr later⟩

theorem released_neutral :
    ⟨.release key token, ()⟩ ∈ before ++ log ↔
      (⟨.release key token, ()⟩ : Entry Op Op.Answer) ∈ log := by
  rw [List.mem_append]
  exact or_iff_right (neutral.not_released key token)

/-- What comes before has no influence on the claim. -/
theorem keepsClaim_neutral : KeepsClaim key token (before ++ log) ↔ KeepsClaim key token log := by
  have accepted : MayHaveAccepted (before ++ log) ↔ MayHaveAccepted log := by
    simp only [MayHaveAccepted, publishes_neutral neutral, rejected_neutral neutral]
  constructor
  · rintro ⟨kept, released⟩
    rw [accepted, publishes_neutral neutral, released_neutral neutral] at kept
    rw [accepted, released_neutral neutral] at released
    exact ⟨kept, released⟩
  · rintro ⟨kept, released⟩
    constructor
    · rw [accepted, publishes_neutral neutral, released_neutral neutral]
      exact kept
    · rw [accepted, released_neutral neutral]
      exact released

end Neutral

/-- After a publish the claim is kept as it should be unless the context was
done before the confirmation. -/
theorem Answered.keepsClaim_iff (answered : Answered published after result) :
    ¬Interrupted (⟨.publish queueName message, published⟩ :: after ++ compensation claim result) ↔
      KeepsClaim claim.1 claim.2 (⟨.publish queueName message,
      published⟩ :: after ++ compensation claim result) := by
  cases answered with
  | interrupted confirmation done =>
    refine iff_of_false (fun quiet => quiet ⟨done, by simp⟩) ?_
    rintro ⟨kept, _⟩
    exact (kept (by simp [MayHaveAccepted, publishes, Rejected,
      compensation])).2 (by simp [compensation])
  | failed | missing | lost | rejected | confirmed =>
    refine iff_of_true ?_ ⟨?_, ?_⟩ <;>
      simp [Interrupted, MayHaveAccepted, publishes, Rejected, compensation]

/-- The same for an attempt that may end before the publish. -/
theorem Attempt.keepsClaim_iff (attempt : Attempt log result) (claim : String × Nat) :
    ¬Interrupted (log ++ compensation claim result) ↔
      KeepsClaim claim.1 claim.2 (log ++ compensation claim result) := by
  cases attempt with
  | unsent silent error =>
    rw [interrupted_neutral silent.neutral, keepsClaim_neutral silent.neutral]
    refine iff_of_true ?_ ⟨?_, ?_⟩ <;> simp [Interrupted, MayHaveAccepted, publishes, compensation]
  | sent silent queueName message published answered =>
    rw [List.append_assoc, interrupted_neutral silent.neutral, keepsClaim_neutral silent.neutral]
    exact answered.keepsClaim_iff

theorem ensures_dispatchClaimed :
    Ensures environment (dispatchClaimed defaultQueue job claim) fun log _ => ∃ attempted result,
      Attempt attempted result ∧ log = attempted ++ compensation claim result := by
  unfold dispatchClaimed
  refine Ensures.bind (ensures_ask_silent (by trivial)) ?_
  intro clock now quietClock
  refine Ensures.bind (ensures_ask_silent (by trivial)) ?_
  rintro encoding (_ | error) quietEncoding
  · refine Ensures.bind ensures_enqueueWithReconnectLocked ?_
    rintro log result attempt
    have whole := attempt.after (quietClock.append quietEncoding)
    rcases result with _ | err | cause
    · exact Ensures.ret ⟨_, none, whole, by simp [compensation]⟩
    · refine Ensures.bind Ensures.logged ?_
      rintro _ _ rfl
      exact Ensures.ret ⟨_, some (.definite err), whole, by simp [compensation]⟩
    · exact Ensures.ret ⟨_, some (.ambiguous cause), whole, by simp [compensation]⟩
  · refine Ensures.bind Ensures.logged ?_
    rintro _ _ rfl
    exact Ensures.ret ⟨_, some (.definite error), .unsent (quietClock.append quietEncoding) error,
      by simp [compensation]⟩

theorem attempt_not_acquired (attempt : Attempt attempted result) (claim : String × Nat)
    (key : String) (token : Option Nat) :
    ⟨.acquire key, token⟩ ∉ attempted ++ compensation claim result := by
  have uncompensated : (⟨.acquire key, token⟩ : Entry Op Op.Answer) ∉
      compensation claim result := by
    rcases result with _ | err | cause <;> simp [compensation]
  have unattempted : (⟨.acquire key, token⟩ : Entry Op Op.Answer) ∉
      attempted := by
    cases attempt with
    | unsent silent error => exact fun member => silent _ member
    | sent silent queueName message published answered =>
      have earlier := fun member => silent ⟨.acquire key, token⟩ member
      cases answered <;> simp <;> exact earlier
  rw [List.mem_append]
  exact not_or.mpr ⟨unattempted, uncompensated⟩

theorem ensures_claimUnique (unique : 0 < job.uniqueTTL) :
    Ensures environment (claimUnique job) fun log claim =>
      log = [⟨.acquire job.uniqueKey, claim.map Prod.snd⟩] ∧
        ∀ taken, claim = some taken -> taken.1 = job.uniqueKey := by
  rw [claimUnique, if_pos unique]
  refine Ensures.bind Ensures.logged ?_
  rintro _ (_ | token) rfl
  · exact Ensures.ret ⟨rfl, by simp⟩
  · exact Ensures.ret ⟨rfl, by simp⟩

/-- A dispatch of a unique job keeps its claim with every message that the
broker may hold, sends no second copy of it and gives the claim back otherwise,
unless its context is done between the publish and the confirmation. -/
theorem claim_survives_possible_acceptance (defaultQueue : String) (job : DispatchJob)
    (unique : 0 < job.uniqueTTL) (surroundings : Environment Op Op.Answer) (log : Log)
    (result : Option GoError) (runs : Logs surroundings (dispatch defaultQueue job) log result) :
    ¬Interrupted log ↔ ∀ token, ⟨.acquire job.uniqueKey, some token⟩ ∈ log ->
        KeepsClaim job.uniqueKey token log := by
  have ensured : Ensures surroundings (dispatch defaultQueue job) fun log _ => ¬Interrupted log ↔
        ∀ token, ⟨.acquire job.uniqueKey, some token⟩ ∈ log ->
        KeepsClaim job.uniqueKey token log := by
    have unclaimed : ∀ log : Log, Neutral log -> (∀ token, ⟨.acquire job.uniqueKey,
        some token⟩ ∉ log) -> (¬Interrupted log ↔ ∀ token, ⟨.acquire job.uniqueKey,
        some token⟩ ∈ log -> KeepsClaim job.uniqueKey token log) :=
      fun log neutral absent => iff_of_true neutral.not_interrupted
        fun token member => absurd member (absent token)
    unfold dispatch
    refine Ensures.bind (Ensures.logged.and (ensures_ask_silent (by simp [Op.silent]))) ?_
    rintro _ (_ | done) ⟨rfl, quiet⟩
    · dsimp only
      split
      · exact Ensures.ret (unclaimed _ (by simpa using quiet.neutral) (by simp))
      split
      · exact Ensures.ret (unclaimed _ (by simpa using quiet.neutral) (by simp))
      refine Ensures.bind (ensures_claimUnique unique) ?_
      rintro _ (_ | claim) ⟨rfl, named⟩
      · refine Ensures.ret (unclaimed _ ?_ (by simp))
        simpa using quiet.neutral.append (neutral_acquire job.uniqueKey none)
      · have key := named claim rfl
        refine Ensures.weaken ensures_dispatchClaimed ?_
        rintro _ _ ⟨attempted, answer, attempt, rfl⟩
        have neutral := quiet.neutral.append (neutral_acquire job.uniqueKey (some claim.2))
        have decided := attempt.keepsClaim_iff claim
        rw [Option.map_some, ← List.append_assoc, interrupted_neutral neutral, decided]
        constructor
        · intro keeps token member
          rw [List.mem_append] at member
          rcases member with taken | later
          · have same : token = claim.2 := by simpa using taken
            rw [keepsClaim_neutral neutral, same, ← key]
            exact keeps
          · exact absurd later (attempt_not_acquired attempt claim _ _)
        · intro keeps
          have held := keeps claim.2 (by simp)
          rwa [keepsClaim_neutral neutral, ← key] at held
    · exact Ensures.ret (unclaimed _ (by simpa using quiet.neutral) (by simp))
  exact ensured log result runs

/-- A job that is to be unique for a minute. -/
def uniqueJob : DispatchJob where
  jobType := "reports:monthly"
  payload := []
  invalid := none
  options :=
    { queueName := "reports", maxRetry := none, backoff := none, timeout := none, delay := 0 }
  uniqueTTL := 60000
  uniqueKey := "v1:reports"

/-- A broker that confirms every publish, and a caller that gives up when the
context is looked at for the last time or never. -/
def answering (cancelled : Bool) : (operation : Op) -> operation.Answer
  | .contextErr .beforeConfirmation =>
    if cancelled then some .canceled else none
  | .contextErr _ => none
  | .acquire _ => some 1
  | .release _ _ => ()
  | .now => 0
  | .marshal _ => none
  | .connected => true
  | .dial => none
  | .openChannel => none
  | .confirmMode => none
  | .close => ()
  | .channelClosed => false
  | .queueDeclare _ => none
  | .publish _ _ => .sent true
  | .waitConfirmation => .ok true

theorem claim_survives_possible_acceptance_confirmed :
    ¬Interrupted (Logs.answered (answering false) (dispatch "default" uniqueJob)).1 ∧
    KeepsClaim "v1:reports" 1
      (Logs.answered (answering false) (dispatch "default" uniqueJob)).1 := by
  have quiet : ¬Interrupted (Logs.answered (answering false) (dispatch "default" uniqueJob)).1 := by
    rintro ⟨done, member⟩
    cases done <;> revert member <;> decide
  refine ⟨quiet, ?_⟩
  exact (claim_survives_possible_acceptance "default" uniqueJob (by decide) _ _
    _ (Logs.of_answered (answering false) _)).mp quiet 1 (by decide)

/-- A caller that gives up between the publish and the confirmation loses the
claim although the broker holds the message. -/
theorem claim_released_after_publish :
    ¬∀ (defaultQueue : String) (job : DispatchJob), 0 < job.uniqueTTL ->
      ∀ (surroundings : Environment Op Op.Answer) (log : Log) (result : Option GoError),
      Logs surroundings (dispatch defaultQueue job) log result -> ∀ token, ⟨.acquire job.uniqueKey,
      some token⟩ ∈ log -> KeepsClaim job.uniqueKey token log := by
  intro always
  have keeps := always "default" uniqueJob (by decide) _ _ _
    (Logs.of_answered (answering true) _) 1 (by decide)
  refine (keeps.kept ?_).2 (by decide +kernel)
  exact .inr ⟨⟨true, by decide +kernel⟩, by unfold Rejected; decide +kernel⟩

end JobQueue.Drivers.RabbitDispatch
