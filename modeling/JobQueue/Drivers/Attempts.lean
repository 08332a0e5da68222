import JobQueue.Machines.Scripted
import JobQueue.Runtime.Errors

/-!
# The attempt protocol

What a driver owes to a job: it shows the handler an attempt number, settles
the result by `classifyAttempt` and goes on with the same number after an
uncommitted error and with the next one after an error that is retried. The
in-process loop `runWithRetry` is the simplest driver.
-/

namespace JobQueue.Drivers

open Scripted

/-- How a job ended. -/
inductive Verdict
  | succeeded
  | failed
  deriving DecidableEq, Repr

/-- Where a job is. -/
inductive Progress
  | running (attempt : Int)
  | stopped (verdict : Verdict)
  deriving DecidableEq, Repr

/-- How a stopped job ended. -/
def Progress.verdict : Progress -> Option Verdict
  | .running _ => none
  | .stopped verdict => some verdict

/-- What a handler result makes of an attempt. -/
def settleAttempt (maxRetry attempt : Int) (result : Option GoError) : Progress :=
  match classifyAttempt { number := attempt, maxRetry := maxRetry } result with
  | .succeeded => .stopped .succeeded
  | .failed => .stopped .failed
  | .retry => .running (attempt + 1)
  | .redeliver => .running attempt

/-- The attempt protocol of a job with a retry budget. -/
def attempts (maxRetry : Int) : Protocol Progress Int (Option GoError) where
  shows
    | .running attempt => some attempt
    | .stopped _ => none
  advance
    | .running attempt, result => settleAttempt maxRetry attempt result
    | .stopped verdict, _ => .stopped verdict

/-- A job that goes on had an error: with the same number after an uncommitted
one, with the next number within the budget after any other. -/
theorem settleAttempt_running (goes : settleAttempt maxRetry attempt result = .running next) :
    ∃ error, result = some error ∧ ((error.isUncommitted = true ∧ next = attempt) ∨
        (error.isUncommitted = false ∧ error.isPermanent = false ∧
          next = attempt + 1 ∧ attempt < maxRetry)) := by
  cases result with
  | none => cases goes
  | some error =>
    refine ⟨error, rfl, ?_⟩
    unfold settleAttempt at goes
    split at goes
    · cases goes
    · cases goes
    · rename_i decided
      cases goes
      obtain ⟨committed, repeatable, budget⟩ := unmarked_of_retry decided
      exact .inr ⟨committed, repeatable, rfl, budget⟩
    · rename_i decided
      cases goes
      refine .inl ⟨?_, rfl⟩
      simp only [classifyAttempt] at decided
      split at decided
      · assumption
      · split at decided <;> cases decided

theorem settleAttempt_bounded (bounded : attempt ≤ maxRetry)
    (goes : settleAttempt maxRetry attempt result = .running next) :
    attempt ≤ next ∧ next ≤ maxRetry := by
  obtain ⟨_, _, ⟨_, same⟩ | ⟨_, _, advanced, budget⟩⟩ := settleAttempt_running goes
  · omega
  · omega

/-- No attempt number passes the budget. -/
theorem trace_attempts_bounded :
    ∀ {attempt : Int}, attempt ≤ maxRetry ->
      ∀ shown ∈ (trace (attempts maxRetry) (.running attempt) script).1, attempt ≤ shown ∧
      shown ≤ maxRetry := by
  induction script with
  | nil =>
    intro attempt _ shown member
    cases member
  | cons result rest ih =>
    intro attempt bounded shown member
    rw [trace_cons rfl] at member
    rcases List.mem_cons.mp member with rfl | later
    · exact ⟨Int.le_refl _, bounded⟩
    · change shown ∈ (trace (attempts maxRetry)
        (settleAttempt maxRetry attempt result) rest).1 at later
      cases moved : settleAttempt maxRetry attempt result with
      | stopped verdict =>
        rw [moved, trace_of_stopped rfl] at later
        cases later
      | running next =>
        rw [moved] at later
        have limits := settleAttempt_bounded bounded moved
        have rest := ih limits.2 shown later
        omega

/-- From one attempt number to the next: the result in between is an
uncommitted error and the number stays, or it is another error that is not
permanent and the number grows by one. -/
theorem trace_attempts_next :
    ∀ {attempt : Int} {index : Nat} {current next : Int},
      (trace (attempts maxRetry) (.running attempt) script).1[index]? = some current ->
      (trace (attempts maxRetry) (.running attempt) script).1[index + 1]? = some next ->
        ∃ error, script[index]? = some (some error) ∧
          ((error.isUncommitted = true ∧ next = current) ∨
            (error.isUncommitted = false ∧ error.isPermanent = false ∧
              next = current + 1 ∧ current < maxRetry)) := by
  induction script with
  | nil =>
    intro attempt index current next shown
    cases shown
  | cons result rest ih =>
    intro attempt index current next shown later
    rw [trace_cons rfl] at shown later
    change (attempt :: (trace (attempts maxRetry)
      (settleAttempt maxRetry attempt result) rest).1)[index]? = _ at shown
    change (attempt :: (trace (attempts maxRetry)
      (settleAttempt maxRetry attempt result) rest).1)[index + 1]? = _ at later
    cases moved : settleAttempt maxRetry attempt result with
    | stopped verdict =>
      rw [moved, trace_of_stopped rfl] at later
      cases later
    | running following =>
      rw [moved] at shown later
      cases index with
      | zero =>
        cases shown
        cases rest with
        | nil => cases later
        | cons second rest =>
          rw [trace_cons rfl] at later
          cases later
          obtain ⟨error, same, either⟩ := settleAttempt_running moved
          exact ⟨error, by rw [same]; rfl, either⟩
      | succ index => exact ih shown later

/-! ## The in-process loop -/

/-- The options of a job that the loop reads; durations in milliseconds. -/
structure JobOptions where
  maxRetry : Option Int
  backoff : Option Int
  deriving DecidableEq, Repr

/-- The delay of a local retry. -/
def localRedeliveryBackoff : Int := 1

/-- Where the loop is after some handler results. -/
inductive LoopState
  | running (attempt : Int)
  | returned (error : Option GoError)
  deriving DecidableEq, Repr

/-- The loop of `runWithRetry` over handler results; `wait` is
`waitForLocalRetry`, which fails when the context is done. -/
def retryLoop (maxRetry : Int) (backoff : Option Int) (wait : Int -> Option GoError) :
    Int -> List (Option GoError) -> List Int × LoopState
  | attempt, [] => ([], .running attempt)
  | attempt, err :: rest =>
    match classifyAttempt { number := attempt, maxRetry := maxRetry } err with
    | .succeeded => ([attempt], .returned none)
    | .failed => ([attempt], .returned err)
    | .retry =>
      match wait (backoff.getD 0) with
      | some waitErr => ([attempt], .returned (some waitErr))
      | none =>
        let later := retryLoop maxRetry backoff wait (attempt + 1) rest
        (attempt :: later.1, later.2)
    | .redeliver =>
      match wait localRedeliveryBackoff with
      | some waitErr => ([attempt], .returned (some waitErr))
      | none =>
        let later := retryLoop maxRetry backoff wait attempt rest
        (attempt :: later.1, later.2)

/-- `runWithRetry`. -/
def runWithRetry (parsed : JobOptions) (wait : Int -> Option GoError)
    (script : List (Option GoError)) : List Int × LoopState :=
  let maxRetry :=
    match parsed.maxRetry with
    | none => 0
    | some maxRetry => if 0 < maxRetry then maxRetry else 0
  retryLoop maxRetry parsed.backoff wait 0 script

/-- How the loop ended. -/
def LoopState.verdict : LoopState -> Option Verdict
  | .running _ => none
  | .returned none => some .succeeded
  | .returned (some _) => some .failed

/-- As long as no wait is cut short, the loop is the attempt protocol. -/
theorem retryLoop_eq_trace (uncancelled : ∀ delay, wait delay = none) (attempt : Int) :
    (retryLoop maxRetry backoff wait attempt script).1 =
        (trace (attempts maxRetry) (.running attempt) script).1 ∧
      (retryLoop maxRetry backoff wait attempt script).2.verdict =
        (trace (attempts maxRetry) (.running attempt) script).2.verdict := by
  induction script generalizing attempt with
  | nil => exact ⟨rfl, rfl⟩
  | cons err rest ih =>
    rw [trace_cons rfl]
    have advance : (attempts maxRetry).advance (.running attempt) err =
        settleAttempt maxRetry attempt err := rfl
    rw [advance, retryLoop, settleAttempt]
    cases decided : classifyAttempt { number := attempt, maxRetry := maxRetry } err with
    | succeeded =>
      rw [trace_of_stopped rfl]
      exact ⟨rfl, rfl⟩
    | failed =>
      rw [trace_of_stopped rfl]
      refine ⟨rfl, ?_⟩
      cases err with
      | none => cases decided
      | some error => rfl
    | retry =>
      obtain ⟨shown, verdict⟩ := ih (attempt + 1)
      simp only [uncancelled]
      exact ⟨by rw [shown], verdict⟩
    | redeliver =>
      obtain ⟨shown, verdict⟩ := ih attempt
      simp only [uncancelled]
      exact ⟨by rw [shown], verdict⟩

end JobQueue.Drivers
