import JobQueue.Runtime.Errors
import Mathlib.Data.Int.ConditionallyCompleteOrder
import Mathlib.Data.String.Basic

/-!
# The retry budget on Redis

Asynq counts retries itself. The driver asks it for one retry more than the job
allows, keeps the budget of the job in a task header, and archives a task whose
budget is spent with an error that forbids another retry. A header that does not
fit the transport's budget is not trusted.
-/

namespace JobQueue.Redis

/-- `backend.SkipRetry`. -/
def skipRetry : GoError := .sentinel "skip retry for the task"

/-- The header of the retry limit. -/
def redisApplicationMaxRetryHeader : String :=
  "goforj-queue-application-max-retry"

/-- The largest retry limit. -/
def redisMaximumApplicationRetry : Int := 2 ^ 31 - 2

/-- What Asynq keeps of a task. -/
structure Task where
  headers : String -> Option String
  transportMaxRetry : Int

section

/-! `maxInt` is the largest value of `int`. -/

variable (maxInt : Int)

/-- `value + 1` in `int`. -/
def increment (value : Int) : Int :=
  if value = maxInt then -maxInt - 1 else value + 1

/-- The sign and the digits of a number. -/
def signed : List Char -> Int × List Char
  | '-' :: rest => (-1, rest)
  | '+' :: rest => (1, rest)
  | chars => (1, chars)

/-- `strconv.Atoi`. -/
def atoi (raw : String) : Option Int :=
  let (sign, digits) := signed raw.toList
  let value := sign * Nat.ofDigitChars 10 digits 0
  if digits ≠ [] ∧ digits.all Char.isDigit ∧ -maxInt - 1 ≤ value ∧ value ≤ maxInt then some value
  else none

/-- The retry limit of a message. -/
def redisApplicationMaxRetryFromHeaders
    (headers : String -> Option String) (transportMaxRetry : Int) : Int :=
  match headers redisApplicationMaxRetryHeader with
  | none => transportMaxRetry
  | some raw =>
    match atoi maxInt raw with
    | none => transportMaxRetry
    | some applicationMaxRetry =>
      if applicationMaxRetry < 0 ∨ applicationMaxRetry = maxInt then
        transportMaxRetry
      else if increment maxInt applicationMaxRetry ≠ transportMaxRetry then
        transportMaxRetry
      else applicationMaxRetry

/-- What `Dispatch` makes of an explicit budget, beside the other headers. -/
def dispatch (headers : String -> Option String) (maxRetry : Int) : Except String Task :=
  if redisMaximumApplicationRetry < maxRetry then
    .error ("redis retry must be <= " ++ toString redisMaximumApplicationRetry ++
      " so its transport reserve fits the Asynq wire format")
  else .ok
    { headers := Function.update headers redisApplicationMaxRetryHeader (some (toString maxRetry))
      transportMaxRetry := increment maxInt maxRetry }

/-- `redisSettlementError`. -/
def redisSettlementError (attempt : DeliveryAttempt) (err : Option GoError) : Option GoError :=
  if classifyAttempt attempt err ≠ .failed then err
  else match err with
    | none => err
    | some error =>
      if error.isSentinel "skip retry for the task" then err
      else some (.join error skipRetry)

/-- `processTask`: what the worker returns to Asynq for a retry count. -/
def processTask (task : Task) (handler : Nat -> Option GoError) (count : Nat) : Option GoError :=
  redisSettlementError
    { number := count
      maxRetry := redisApplicationMaxRetryFromHeaders maxInt task.headers task.transportMaxRetry }
    (handler count)

/-- Asynq runs a task again while the count is below the transport's budget,
unless it succeeded or must not be retried: the counts it is run with. -/
def attempts (task : Task) (handler : Nat -> Option GoError) (count : Nat) : List Nat :=
  match processTask maxInt task handler count with
  | none => [count]
  | some error =>
    if error.isSentinel "skip retry for the task" = false ∧
        count < task.transportMaxRetry then
      count :: attempts task handler (count + 1)
    else [count]
  termination_by (task.transportMaxRetry - count).toNat

end

/-- A failure without any marker. -/
def Plain (error : GoError) : Prop :=
  error.isPermanent = false ∧ error.isUncommitted = false ∧
    error.isSentinel "skip retry for the task" = false

/-- The invocation succeeds or fails permanently. -/
def Ends (result : Option GoError) : Prop :=
  ∀ error, result = some error -> error.isPermanent = true ∧ error.isUncommitted = false

theorem atoi_toString (nonneg : 0 ≤ value) (small : value ≤ maxInt) :
    atoi maxInt (toString value) = some value := by
  obtain ⟨number, rfl⟩ := Int.eq_ofNat_of_zero_le nonneg
  have digits : (toString (number : Int)).toList = Nat.toDigits 10 number := Nat.toList_repr
  have read : Nat.ofDigitChars 10 (Nat.toDigits 10 number) 0 = number :=
    Nat.ofDigitChars_ten_toDigits
  have decimal : ∀ char ∈ Nat.toDigits 10 number, char.isDigit = true :=
    fun char member => Nat.isDigit_of_mem_toDigits (by decide) (by decide) member
  have unsigned : signed (Nat.toDigits 10 number) = (1, Nat.toDigits 10 number) := by
    unfold signed
    split
    · rename_i parts
      exact absurd (decimal '-' (by simp [parts])) (by decide)
    · rename_i parts
      exact absurd (decimal '+' (by simp [parts])) (by decide)
    · rfl
  simp only [atoi, digits, unsigned, read, Int.one_mul]
  exact if_pos ⟨Nat.toDigits_ne_nil, List.all_eq_true.mpr decimal, by omega, small⟩

/-- An unfit header leaves the budget of the transport. -/
theorem budget_of_unfit
    (unfit : ¬∃ raw value, headers redisApplicationMaxRetryHeader = some raw ∧
      atoi maxInt raw = some value ∧ 0 ≤ value ∧ value + 1 = transport) :
    redisApplicationMaxRetryFromHeaders maxInt headers transport = transport := by
  unfold redisApplicationMaxRetryFromHeaders
  split
  · rfl
  · rename_i raw present
    split
    · rfl
    · rename_i value parsed
      split
      · rfl
      · rename_i proper
        rw [not_or, Int.not_lt] at proper
        refine if_pos fun fits =>
          unfit ⟨raw, value, present, parsed, proper.1, ?_⟩
        rwa [increment, if_neg proper.2] at fits

/-! ### The whole task -/

section

variable {task : Task} {budget : Nat}
  (recovered : redisApplicationMaxRetryFromHeaders maxInt task.headers
    task.transportMaxRetry = budget)
  (reserved : task.transportMaxRetry = budget + 1)

include recovered reserved in
/-- Below its budget a plain failure is retried. -/
theorem attempts_retried (failed : handler count = some error) (plain : Plain error)
    (below : count < budget) :
    attempts maxInt task handler count = count :: attempts maxInt task handler (count + 1) := by
  have kept : processTask maxInt task handler count = some error := by
    rw [processTask, recovered, failed]
    refine if_pos ?_
    have unspent : ¬(budget : Int) ≤ count := by omega
    simp [classifyAttempt, DeliveryAttempt.exhausted, plain.1, plain.2.1, unspent]
  rw [attempts, kept]
  exact if_pos ⟨plain.2.2, by omega⟩

/-- A failure that uses up the budget or is permanent is archived. -/
theorem archived_of_failed
    (failed : ∀ error, err = some error -> classifyAttempt attempt (some error) = .failed) :
    ∀ error, redisSettlementError attempt err = some error ->
      error.isSentinel "skip retry for the task" = true := by
  intro error settled
  cases err with
  | none => simp [redisSettlementError] at settled
  | some cause =>
    rw [redisSettlementError, if_neg (by simp [failed cause rfl])] at settled
    split at settled
    · cases settled
      assumption
    · cases settled
      simp [GoError.isSentinel, skipRetry]

include recovered reserved in
/-- Failing plainly up to its last invocation, a task is run once for each
count. -/
theorem attempts_eq_range
    (plain : ∀ count < last, ∃ error, handler count = some error ∧ Plain error)
    (within : last ≤ budget)
    (final : ∀ error, handler last = some error ->
      classifyAttempt ⟨last, budget⟩ (some error) = .failed) :
    attempts maxInt task handler 0 = List.range (last + 1) := by
  have onward : ∀ before ≤ last, attempts maxInt task handler (last - before) =
      List.range' (last - before) (before + 1) := by
    intro before
    induction before with
    | zero =>
      intro _
      rw [attempts]
      split
      · rfl
      · rename_i error returned
        refine if_neg ?_
        rw [← recovered] at final
        simp [archived_of_failed final error returned]
    | succ before ih =>
      intro covered
      obtain ⟨error, failed, marked⟩ := plain (last - (before + 1)) (by omega)
      rw [attempts_retried recovered reserved failed marked (by omega), List.range'_succ,
        show last - (before + 1) + 1 = last - before by omega, ih (by omega)]
  have whole := onward last (Nat.le_refl last)
  rwa [Nat.sub_self, ← List.range_eq_range'] at whole

end

/-- A plain failure at the budget is final. -/
theorem spent {handler : Nat -> Option GoError}
    (plain : ∃ error, handler budget = some error ∧ Plain error) :
    ∀ error, handler budget = some error ->
      classifyAttempt ⟨budget, budget⟩ (some error) = .failed := by
  obtain ⟨cause, failed, marked⟩ := plain
  intro error given
  cases failed.symm.trans given
  simp [classifyAttempt, DeliveryAttempt.exhausted, marked.2.1]

/-- The worker recovers the budget that was dispatched. -/
theorem dispatch_recovers (wide : 2 ^ 31 - 1 ≤ maxInt)
    (accepted : ((budget : Nat) : Int) ≤ redisMaximumApplicationRetry)
    (headers : String -> Option String) :
    ∃ task, dispatch maxInt headers budget = .ok task ∧ task.transportMaxRetry = budget + 1 ∧
      redisApplicationMaxRetryFromHeaders maxInt task.headers task.transportMaxRetry = budget := by
  have within : (budget : Int) < maxInt := by
    unfold redisMaximumApplicationRetry at accepted
    omega
  refine ⟨_, if_neg (by omega), if_neg (by omega), ?_⟩
  have read := atoi_toString (Int.natCast_nonneg budget) (Int.le_of_lt within)
  simp only [redisApplicationMaxRetryFromHeaders, Function.update_self, read]
  rw [if_neg (by omega), if_neg (by simp)]

/-- The budget of a job survives the transport, and it is what the handler gets:
one invocation more than the budget if it keeps failing, fewer if it succeeds or
fails permanently before. -/
theorem redis_retry_budget (wide : 2 ^ 31 - 1 ≤ maxInt) (budget : Nat)
    (accepted : (budget : Int) ≤ redisMaximumApplicationRetry)
    (headers : String -> Option String) (handler : Nat -> Option GoError) :
    ∃ task, dispatch maxInt headers budget = .ok task ∧ task.transportMaxRetry = budget + 1 ∧
      redisApplicationMaxRetryFromHeaders maxInt task.headers task.transportMaxRetry = budget ∧
      (∀ headers transport, (¬∃ raw value, headers redisApplicationMaxRetryHeader = some raw ∧
          atoi maxInt raw = some value ∧ 0 ≤ value ∧ value + 1 = transport) ->
        redisApplicationMaxRetryFromHeaders maxInt headers transport = transport) ∧
      ((∀ count, ∃ error, handler count = some error ∧ Plain error) ->
        attempts maxInt task handler 0 = List.range (budget + 1)) ∧
      ∀ before, (∀ count < before, ∃ error, handler count = some error ∧ Plain error) ->
        Ends (handler before) ->
        attempts maxInt task handler 0 = List.range (min (before + 1) (budget + 1)) := by
  obtain ⟨task, dispatched, reserved, recovered⟩ := dispatch_recovers wide accepted headers
  refine ⟨task, dispatched, reserved, recovered,
    fun _ _ => budget_of_unfit, fun plain => ?_, fun before plain ends => ?_⟩
  · exact attempts_eq_range recovered reserved (fun count _ => plain count)
      (Nat.le_refl budget) (spent (plain budget))
  · by_cases early : before ≤ budget
    · rw [Nat.min_eq_left (by omega)]
      refine attempts_eq_range recovered reserved plain early ?_
      intro error failed
      simp [classifyAttempt, ends error failed]
    · rw [Nat.min_eq_right (by omega)]
      exact attempts_eq_range recovered reserved (fun count below => plain count (by omega))
        (Nat.le_refl budget) (spent (plain budget (by omega)))

theorem redis_retry_budget_once :
    ∃ task, dispatch (2 ^ 63 - 1) (fun _ => none) 1 = .ok task ∧
      attempts (2 ^ 63 - 1) task (fun _ => some (.text "refused")) 0 = [0, 1] := by
  obtain ⟨task, dispatched, _, _, _, always, _⟩ :=
    redis_retry_budget (show 2 ^ 31 - 1 ≤ 2 ^ 63 - 1 by decide) 1 (by decide) (fun _ => none)
      (fun _ => some (.text "refused"))
  exact ⟨task, dispatched, always fun _ => ⟨_, rfl, rfl, rfl, rfl⟩⟩

end JobQueue.Redis
