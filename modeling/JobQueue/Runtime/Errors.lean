import Mathlib.Data.List.Basic

/-!
# Error values and attempt classification

Go errors are finite trees. A leaf carries a message or is a package-level
value that is compared by identity; the inner nodes are `%w` wrapping,
`errors.Join`, and the marker types that `busruntime` and the root dispatcher
put around a cause. The `nil` error is the absent option, so a fallible call
returns `Option GoError`.

`classifyAttempt` is the shared rule by which workers, drivers and the workflow
engine settle one application attempt.
-/

namespace JobQueue

/-- One character of a `%q` text; beyond ASCII every character is taken to be
printable. -/
def quotedRune (c : Char) : String :=
  if c = '"' ∨ c = '\\' then "\\" ++ c.toString
  else if ' ' ≤ c ∧ c ≠ '\x7f' then c.toString
  else
    match ['\x07', '\x08', '\x0c', '\n', '\r', '\t', '\x0b'].idxOf? c with
    | some index => "\\" ++ (['a', 'b', 'f', 'n', 'r', 't', 'v'].getD index c).toString
    | none => "\\x" ++ String.ofList [Nat.digitChar (c.toNat / 16), Nat.digitChar (c.toNat % 16)]

/-- A text as `%q` writes it. -/
def quoted (text : String) : String :=
  "\"" ++ String.join (text.toList.map quotedRune) ++ "\""

/-- A non-nil Go error value. -/
inductive GoError
  | text (message : String)
  | sentinel (message : String)
  | notFound
  | wrap (operation : String) (cause : GoError)
  | join (first second : GoError)
  | permanent (cause : GoError)
  | uncommitted (cause : GoError)
  | acceptedExecution (cause : GoError)
  deriving DecidableEq, Repr

namespace GoError

/-- The text returned by `Error()`. -/
def message : GoError -> String
  | .text message => message
  | .sentinel message => message
  | .notFound => "bus record not found"
  | .wrap operation cause => operation ++ ": " ++ cause.message
  | .join first second => first.message ++ "\n" ++ second.message
  | .permanent cause => cause.message
  | .uncommitted cause => cause.message
  | .acceptedExecution cause => cause.message

/-- `errors.As` search for a permanent marker anywhere in the tree. -/
def isPermanent : GoError -> Bool
  | .text _ => false
  | .sentinel _ => false
  | .notFound => false
  | .wrap _ cause => cause.isPermanent
  | .join first second => first.isPermanent || second.isPermanent
  | .permanent _ => true
  | .uncommitted cause => cause.isPermanent
  | .acceptedExecution cause => cause.isPermanent

/-- `errors.As` search for an uncommitted marker anywhere in the tree. -/
def isUncommitted : GoError -> Bool
  | .text _ => false
  | .sentinel _ => false
  | .notFound => false
  | .wrap _ cause => cause.isUncommitted
  | .join first second => first.isUncommitted || second.isUncommitted
  | .permanent cause => cause.isUncommitted
  | .uncommitted _ => true
  | .acceptedExecution cause => cause.isUncommitted

variable (error : GoError)

/-- `Permanent` marks an application error once. -/
def asPermanent : GoError :=
  if error.isPermanent then error else .permanent error

/-- `Uncommitted` marks an infrastructure error once. -/
def asUncommitted : GoError :=
  if error.isUncommitted then error else .uncommitted error

@[simp] theorem isUncommitted_asUncommitted : error.asUncommitted.isUncommitted = true := by
  unfold asUncommitted
  split
  · assumption
  · rfl

@[simp] theorem isPermanent_asPermanent : error.asPermanent.isPermanent = true := by
  unfold asPermanent
  split
  · assumption
  · rfl

/-- `acceptedDispatchExecutionError`: the first error of the tree that reports
acceptance before execution failed, unwrapped to its cause. -/
def acceptedDispatchExecutionError : GoError -> Option GoError
  | .text _ => none
  | .sentinel _ => none
  | .notFound => none
  | .wrap _ cause => cause.acceptedDispatchExecutionError
  | .join first second =>
    first.acceptedDispatchExecutionError <|> second.acceptedDispatchExecutionError
  | .permanent cause => cause.acceptedDispatchExecutionError
  | .uncommitted cause => cause.acceptedDispatchExecutionError
  | .acceptedExecution cause => some cause

/-- `errors.Is` search for a package-level error value. -/
def isSentinel (message : String) : GoError -> Bool
  | .text _ => false
  | .sentinel name => name == message
  | .notFound => false
  | .wrap _ cause => cause.isSentinel message
  | .join first second => first.isSentinel message || second.isSentinel message
  | .permanent cause => cause.isSentinel message
  | .uncommitted cause => cause.isSentinel message
  | .acceptedExecution cause => cause.isSentinel message

/-- `errors.Join` of a list of possibly nil errors. -/
def joinAll : List (Option GoError) -> Option GoError
  | [] => none
  | none :: rest => joinAll rest
  | some error :: rest =>
    match joinAll rest with
    | none => some error
    | some other => some (.join error other)

end GoError

/-- One application attempt and its configured retry budget. -/
structure DeliveryAttempt where
  /-- Zero-based attempt number. -/
  number : Int
  /-- Retries allowed after the initial attempt. -/
  maxRetry : Int
  deriving DecidableEq, Repr

/-- The attempt has consumed its retry budget. -/
def DeliveryAttempt.exhausted (attempt : DeliveryAttempt) : Bool :=
  decide (attempt.maxRetry ≤ attempt.number)

/-- How a worker settles an application attempt. -/
inductive AttemptDecision
  | succeeded
  | retry
  | failed
  | redeliver
  deriving DecidableEq, Repr

/-- Map a handler result to the settlement decision of its worker. -/
def classifyAttempt (attempt : DeliveryAttempt) : Option GoError -> AttemptDecision
  | none => .succeeded
  | some error =>
    if error.isUncommitted then .redeliver
    else if error.isPermanent || attempt.exhausted then .failed
    else .retry

@[simp] theorem classifyAttempt_none : classifyAttempt attempt none = .succeeded := rfl

/-- Only a nil result is classified as success. -/
theorem classifyAttempt_eq_succeeded_iff (attempt : DeliveryAttempt) (result : Option GoError) :
    classifyAttempt attempt result = .succeeded ↔ result = none := by
  cases result with
  | none => simp
  | some error =>
    simp only [classifyAttempt, reduceCtorEq, iff_false]
    split
    · simp
    · split <;> simp

/-- An uncommitted error is redelivered whatever the attempt number. -/
theorem classifyAttempt_of_isUncommitted (uncommitted : error.isUncommitted = true) :
    classifyAttempt attempt (some error) = .redeliver := by
  simp [classifyAttempt, uncommitted]

/-- An error is retried if it has no marker and the budget is not spent. -/
theorem unmarked_of_retry (decided : classifyAttempt attempt (some error) = .retry) :
    error.isUncommitted = false ∧ error.isPermanent = false ∧
      attempt.number < attempt.maxRetry := by
  simp only [classifyAttempt] at decided
  split at decided
  · cases decided
  · rename_i committed
    split at decided
    · cases decided
    · rename_i unfailed
      simp only [DeliveryAttempt.exhausted, Bool.or_eq_true, decide_eq_true_eq, not_or] at unfailed
      exact ⟨by simpa using committed, by simpa using unfailed.1, by omega⟩

end JobQueue
