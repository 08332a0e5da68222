import JobQueue.Drivers.Brokers
import Mathlib.Algebra.Group.Int.Defs
import Mathlib.Algebra.Group.Nat.Defs

/-!
# Requested timeouts

A timeout is a nanosecond duration of 64 bits. The SQL driver stores it in
seconds, rounded up, and the brokers carry it in whole milliseconds; a worker
multiplies the stored number back. Zero stands for no timeout, so a broker loses
a timeout below a millisecond, and the product for the longest SQL timeouts is
beyond the range.
-/

namespace JobQueue.Timeouts

/-- The result of an `int64` operation. -/
def int64 (value : Int) : Int := Int.bmod value (2 ^ 64)

/-- Drivers that store a timeout. -/
inductive Driver where
  | sql
  | broker (kind : Drivers.BrokerKind)

/-- The nanoseconds of one stored unit. -/
def Driver.unit : Driver -> Int
  | .sql => 1000000000
  | .broker _ => 1000000

/-- What `Dispatch` of the SQL driver stores: the seconds, rounded up, and at
least one. The source rounds the `float64` of `Duration.Seconds`; the seconds are
exact here, which differs only for durations beyond `2 ^ 24` seconds that exceed a
whole second by a few nanoseconds. -/
def timeoutSeconds (timeout : Option Int) : Option Int :=
  timeout.map fun duration =>
    let seconds := -(-duration / 1000000000)
    if seconds < 1 then 1 else seconds

/-- The timeout that `processJob` puts on the handler's context. -/
def databaseTimeout : Option Int -> Option Int
  | none => none
  | some seconds =>
    if 0 < seconds then some (int64 (seconds * 1000000000)) else none

/-- The milliseconds of a duration in the message of a broker. -/
def wholeMillis : Option Int -> Int
  | none => 0
  | some duration => if 0 < duration then duration / 1000000 else 0

/-- The message of a job holds these milliseconds; its options are read in whole
milliseconds there. -/
theorem timeoutMillis_messageForJob (options : Drivers.DriverJobOptions) :
    (Drivers.messageForJob now jobType
      { options with timeout := timeout.map (· / 1000000) }).timeoutMillis =
      wholeMillis timeout := by
  cases timeout with
  | none => rfl
  | some duration =>
    simp only [Drivers.messageForJob, Drivers.positiveDuration, wholeMillis, Option.map_some]
    split <;> split <;> omega

/-- The timeout that a broker's worker puts on the handler's context. -/
def messageTimeout (timeoutMillis : Int) : Option Int :=
  if 0 < timeoutMillis then some (int64 (timeoutMillis * 1000000)) else none

/-- The timeout of the handler's context, by the timeout of the job; the three
brokers do the same. -/
def handlerTimeout (timeout : Option Int) : Driver -> Option Int
  | .sql => databaseTimeout (timeoutSeconds timeout)
  | .broker _ => messageTimeout (wholeMillis timeout)

/-- The handler has a deadline that lies ahead, less than a unit off. -/
def Enforced (driver : Driver) (duration : Int) : Option Int -> Prop
  | none => False
  | some timeout => 0 < timeout ∧ duration < timeout + driver.unit ∧
    timeout < duration + driver.unit

/-- The duration survives its encoding. -/
def Representable (duration : Int) : Driver -> Prop
  | .sql => duration ≤ 9223372036 * 1000000000
  | .broker _ => 1000000 ≤ duration

/-- A product within the range is exact. -/
theorem int64_of_lt (low : 0 ≤ value) (high : value < 2 ^ 63) : int64 value = value := by
  unfold int64
  rw [Int.bmod_def, Int.emod_eq_of_lt low (by omega)]
  exact if_pos (by omega)

theorem enforced_sql (positive : 0 < duration) (range : duration < 2 ^ 63) :
    Enforced .sql duration (databaseTimeout (timeoutSeconds (some duration))) ↔
      duration ≤ 9223372036 * 1000000000 := by
  obtain ⟨seconds, computed⟩ : ∃ seconds, seconds = -(-duration / 1000000000) := ⟨_, rfl⟩
  have least : ¬seconds < 1 := by omega
  simp only [timeoutSeconds, Option.map_some, ← computed, least, if_false,
    databaseTimeout, if_pos (show 0 < seconds by omega), Enforced, Driver.unit]
  by_cases fits : duration ≤ 9223372036 * 1000000000
  · rw [int64_of_lt (by omega) (by omega)]
    omega
  · -- The last second of the range is rounded up to the first one beyond it.
    have last : seconds = 9223372037 := by omega
    rw [last, show int64 (9223372037 * 1000000000) = -9223372036709551616 by
      decide]
    omega

theorem enforced_broker (positive : 0 < duration) (range : duration < 2 ^ 63) :
    Enforced (.broker kind) duration (messageTimeout (wholeMillis (some duration))) ↔
      1000000 ≤ duration := by
  simp only [messageTimeout, wholeMillis, if_pos positive]
  split
  · rw [Enforced, int64_of_lt (by omega) (by omega), Driver.unit]
    omega
  · exact ⟨False.elim, fun long => by omega⟩

/-- The timeout is enforced exactly if its encoding can hold it. -/
theorem timeout_enforced_iff (driver : Driver) (duration : Int)
    (positive : 0 < duration) (range : duration < 2 ^ 63) :
    Enforced driver duration (handlerTimeout (some duration) driver) ↔
      Representable duration driver := by
  cases driver with
  | sql => exact enforced_sql positive range
  | broker kind => exact enforced_broker positive range

theorem timeout_enforced_iff_second :
    Enforced (.broker .sqs) 1500000000 (handlerTimeout (some 1500000000) (.broker .sqs)) :=
  (timeout_enforced_iff _ _ (by decide) (by decide)).mpr (by simp [Representable])

/-- Half a millisecond is no timeout for a broker, and the longest SQL timeout
has run out before the handler starts. -/
theorem timeout_lost :
    handlerTimeout (some 500000) (.broker .rabbitMQ) = none ∧
      handlerTimeout (some (2 ^ 63 - 1)) .sql = some (-9223372036709551616) := by
  decide

end JobQueue.Timeouts
