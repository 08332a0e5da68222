import Mathlib.Logic.Function.Basic

/-!
# Uniqueness locks of the SQL queue

A unique dispatch claims its legacy and its canonical key and inserts the job row
in one transaction, so a dispatch that is not committed leaves no trace. The error
of a commit does not tell whether the transaction took effect. An unexpired lock
survives every dispatch, and with it the distance between committed dispatches of
one key.
-/

namespace JobQueue.SqlQueue.Uniqueness

/-- The statements of a unique dispatch that can fail. -/
inductive Statement where
  | begin
  | databaseNow
  | prune
  | insertLock (key : String)
  | updateLock (key : String)
  | insertJob
  | commit

/-- What the identities of a job are computed from. -/
structure Job where
  type : String
  payload : List UInt8

/-- The lock table and the job table. -/
structure Database (ρ : Type) where
  locks : String -> Option Int := fun _ => none
  jobs : List ρ := []

/-- One call of `Dispatch`: the job with the row its `INSERT` writes, the
database clock inside its transaction, whether its claim is one that prunes, the
statements and affected-row counts that fail, and whether the last statement takes
effect although it fails. -/
structure Dispatch (ρ : Type) where
  job : Job
  queueName : String
  row : ρ
  uniqueTTL : Int
  now : Int
  prunes : Bool := false
  fails : Statement -> Bool := fun _ => false
  uncounted : Statement -> Bool := fun _ => false
  applied : Bool := false

/-- What the caller is told. -/
inductive Outcome where
  | committed
  | duplicate
  | failed
  deriving DecidableEq

section

variable {ρ : Type} (digest : List UInt8 -> String) (uniqueJobKey : Job -> String -> String)
  (dispatch : Dispatch ρ)

/-- The unversioned identity, a digest of queue, type and payload. -/
def legacyUniqueJobKey (job : Job) (queueName : String) : String :=
  digest ((queueName ++ ":" ++ job.type ++ ":").toUTF8.toList ++ job.payload)

/-- Delete the locks that expired. -/
def pruneExpiredUniqueLocks (now : Int) (locks : String -> Option Int) : String -> Option Int :=
  fun key => (locks key).filter (now < ·)

/-- Claim one key: insert the lock, or take over an expired one. No result is an
error. -/
def acquireUniqueKey (key : String) (expiresAt : Int)
    (locks : String -> Option Int) : Option (Bool × (String -> Option Int)) :=
  if dispatch.fails (.insertLock key) then none
  else
    let inserted := (locks key).isNone
    let locks := if inserted then Function.update locks key (some expiresAt)
      else locks
    if inserted && !dispatch.uncounted (.insertLock key) then some (true, locks)
    else if dispatch.fails (.updateLock key) || dispatch.uncounted (.updateLock key) then none
    else if (locks key).any (· ≤ dispatch.now) then
      some (true, Function.update locks key (some expiresAt))
    else some (false, locks)

/-- The time to live of a lock in milliseconds, at least one. -/
def ttlMillis (ttl : Int) : Int :=
  if ttl.tdiv 1000000 < 1 then 1 else ttl.tdiv 1000000

/-- When the locks of a dispatch expire. -/
def Dispatch.expiresAt : Int :=
  dispatch.now + ttlMillis dispatch.uniqueTTL

/-- The keys of a dispatch, in the order they are claimed. -/
def Dispatch.keys : List String :=
  [legacyUniqueJobKey digest dispatch.job dispatch.queueName,
    uniqueJobKey dispatch.job dispatch.queueName]

/-- The loop over the keys. -/
def acquireKeys : List String -> (String -> Option Int) -> Option (Bool × (String -> Option Int))
  | [], locks => some (true, locks)
  | key :: keys, locks =>
    match acquireUniqueKey dispatch key dispatch.expiresAt locks with
    | none => none
    | some (false, locks) => some (false, locks)
    | some (true, locks) => acquireKeys keys locks

/-- Read the clock, prune when it is time to, and claim both keys. -/
def acquireUnique (locks : String -> Option Int) : Option (Bool × (String -> Option Int)) :=
  if dispatch.fails .databaseNow || dispatch.prunes && dispatch.fails .prune then
    none
  else
    acquireKeys dispatch (dispatch.keys digest uniqueJobKey)
      (if dispatch.prunes then pruneExpiredUniqueLocks dispatch.now locks
        else locks)

/-- The last statement of a dispatch, a commit or an insert without transaction.
Its error may come after it took effect. -/
def Dispatch.finish (statement : Statement) (database next : Database ρ) : Database ρ × Outcome :=
  if dispatch.fails statement then
    (if dispatch.applied then next else database, .failed)
  else (next, .committed)

/-- `Dispatch` as one transaction; leaving it without commit rolls it back. -/
def dispatchJob (database : Database ρ) (dispatch : Dispatch ρ) : Database ρ × Outcome :=
  if dispatch.uniqueTTL ≤ 0 then
    dispatch.finish .insertJob database { database with jobs := database.jobs ++ [dispatch.row] }
  else if dispatch.fails .begin then (database, .failed)
  else match acquireUnique digest uniqueJobKey dispatch database.locks with
    | none => (database, .failed)
    | some (false, _) => (database, .duplicate)
    | some (true, locks) =>
      if dispatch.fails .insertJob then (database, .failed)
      else dispatch.finish .commit database ⟨locks, database.jobs ++ [dispatch.row]⟩

/-- The transaction took effect, whatever its caller is told: the row of the
dispatch was inserted. -/
def Committed (database : Database ρ) (dispatch : Dispatch ρ) (after : Database ρ) : Prop :=
  after.jobs = database.jobs ++ [dispatch.row]

/-- The database after a sequence of dispatches. -/
def run (database : Database ρ) (dispatches : List (Dispatch ρ)) : Database ρ :=
  dispatches.foldl
    (fun database dispatch => (dispatchJob digest uniqueJobKey database dispatch).1)
    database

/-! ### What one dispatch does to the locks -/

variable {digest uniqueJobKey dispatch}

/-- A new lock is unexpired. -/
theorem expiresAt_gt : dispatch.now < dispatch.expiresAt := by
  unfold Dispatch.expiresAt ttlMillis
  split <;> omega

/-- A claimed key was free or expired, and is locked afterwards; every other lock
stays. -/
theorem acquireUniqueKey_spec
    (acquired : acquireUniqueKey dispatch key dispatch.expiresAt locks = some (true, next)) :
    (∀ expiry, locks key = some expiry -> expiry ≤ dispatch.now) ∧
      next = Function.update locks key (some dispatch.expiresAt) := by
  have future := @expiresAt_gt ρ dispatch
  unfold acquireUniqueKey at acquired
  cases held : locks key with
  | none =>
    simp only [held, Option.isNone_none, if_true, Bool.true_and,
      Function.update_self, Option.any_some] at acquired
    refine ⟨fun _ found => absurd found nofun, ?_⟩
    split at acquired
    · cases acquired
    · split at acquired
      · cases acquired
        rfl
      · split at acquired
        · cases acquired
        · rw [if_neg (by simp; omega)] at acquired
          cases acquired
  | some expiry =>
    simp only [held, Option.isNone_some, Bool.false_eq_true, if_false,
      Bool.false_and, Option.any_some] at acquired
    split at acquired
    · cases acquired
    · split at acquired
      · cases acquired
      · split at acquired
        · rename_i expired
          cases acquired
          refine ⟨fun _ found => ?_, rfl⟩
          cases found
          exact of_decide_eq_true expired
        · cases acquired

/-- Claimed keys were free or expired, and are locked afterwards. -/
theorem acquireKeys_spec (acquired : acquireKeys dispatch keys locks = some (true, next)) :
    (∀ key ∈ keys, ∀ expiry, locks key = some expiry -> expiry ≤ dispatch.now) ∧
      ∀ key, next key = if key ∈ keys then some dispatch.expiresAt else locks key := by
  induction keys generalizing locks with
  | nil =>
    cases acquired
    simp
  | cons first rest ih =>
    rw [acquireKeys] at acquired
    split at acquired
    · cases acquired
    · cases acquired
    · rename_i middle claimed
      obtain ⟨free, rfl⟩ := acquireUniqueKey_spec claimed
      obtain ⟨others, after⟩ := ih acquired
      refine ⟨fun key member expiry found => ?_, fun key => ?_⟩
      · by_cases same : key = first
        · exact free expiry (same ▸ found)
        · refine others key ((List.mem_cons.mp member).resolve_left same) expiry ?_
          rw [Function.update_of_ne same, found]
      · rw [after]
        by_cases same : key = first
        · simp [same]
        · simp [same]

variable (digest uniqueJobKey) in
/-- The results of a unique dispatch: nothing happened, or its free keys are locked
and its row is inserted, although the commit may report an error. -/
inductive Settles (database : Database ρ) (dispatch : Dispatch ρ) : Database ρ × Outcome -> Prop
  | refused {outcome : Outcome} (uncommitted : outcome ≠ .committed) :
      Settles database dispatch (database, outcome)
  | committed {locks : String -> Option Int} {outcome : Outcome}
      (told : outcome = .committed ∨ outcome = .failed ∧ dispatch.fails .commit = true)
      (free : ∀ key ∈ dispatch.keys digest uniqueJobKey, ∀ expiry,
        database.locks key = some expiry -> expiry ≤ dispatch.now)
      (locked : ∀ key ∈ dispatch.keys digest uniqueJobKey, locks key = some dispatch.expiresAt)
      (others : ∀ key ∉ dispatch.keys digest uniqueJobKey, ∀ expiry,
        database.locks key = some expiry -> dispatch.now < expiry -> locks key = some expiry) :
      Settles database dispatch (⟨locks, database.jobs ++ [dispatch.row]⟩, outcome)

/-- Every unique dispatch ends in one of these ways. -/
theorem dispatchJob_settles (database : Database ρ) (unique : 0 < dispatch.uniqueTTL) :
    Settles digest uniqueJobKey database dispatch
      (dispatchJob digest uniqueJobKey database dispatch) := by
  unfold dispatchJob
  rw [if_neg (Int.not_le.mpr unique)]
  split
  · exact .refused nofun
  · split
    · exact .refused nofun
    · exact .refused nofun
    · rename_i locks acquired
      split
      · exact .refused nofun
      · unfold acquireUnique at acquired
        split at acquired
        · cases acquired
        · obtain ⟨free, after⟩ := acquireKeys_spec acquired
          -- pruning keeps exactly the unexpired locks
          have kept (key : String) (expiry : Int) (held : database.locks key = some expiry)
              (unexpired : dispatch.now < expiry) :
              (if dispatch.prunes then
                pruneExpiredUniqueLocks dispatch.now database.locks
              else database.locks) key = some expiry := by
            split
            · simp [pruneExpiredUniqueLocks, held, Option.filter, unexpired]
            · exact held
          have settles (outcome : Outcome) (told : outcome = .committed ∨
              outcome = .failed ∧ dispatch.fails .commit = true) :
              Settles digest uniqueJobKey database dispatch
                (⟨locks, database.jobs ++ [dispatch.row]⟩, outcome) := by
            refine .committed told (fun key member expiry held => ?_)
              (fun key member => ?_) fun key foreign expiry held unexpired => ?_
            · by_contra later
              exact later (free key member expiry (kept key expiry held (Int.not_le.mp later)))
            · rw [after, if_pos member]
            · rw [after, if_neg foreign, kept key expiry held unexpired]
          unfold Dispatch.finish
          split
          · rename_i lost
            split
            · exact settles _ (.inr ⟨rfl, lost⟩)
            · exact .refused nofun
          · exact settles _ (.inl rfl)

variable {database : Database ρ}

/-- An unexpired lock outlives a dispatch. -/
theorem locks_of_unexpired (held : database.locks key = some expiry)
    (unexpired : 0 < dispatch.uniqueTTL -> dispatch.now < expiry) :
    (dispatchJob digest uniqueJobKey database dispatch).1.locks key = some expiry := by
  by_cases unique : 0 < dispatch.uniqueTTL
  · have settles := @dispatchJob_settles ρ digest uniqueJobKey dispatch database unique
    generalize dispatchJob digest uniqueJobKey database dispatch = result at settles ⊢
    cases settles with
    | refused => exact held
    | committed told free locked others =>
      refine others key (fun member => ?_) expiry held (unexpired unique)
      exact Int.not_lt.mpr (free key member expiry held) (unexpired unique)
  · rw [dispatchJob, if_pos (Int.not_lt.mp unique), Dispatch.finish]
    split
    · split <;> exact held
    · exact held

/-- Over a sequence of dispatches a lock stays until the clock reaches its
expiry. -/
theorem locks_run (held : database.locks key = some expiry)
    (unexpired : ∀ dispatch ∈ dispatches, 0 < dispatch.uniqueTTL -> dispatch.now < expiry) :
    (run digest uniqueJobKey database dispatches).locks key = some expiry := by
  induction dispatches generalizing database with
  | nil => exact held
  | cons dispatch rest ih =>
    exact ih (locks_of_unexpired held (unexpired dispatch (List.mem_cons_self ..)))
      fun other member => unexpired other (List.mem_cons_of_mem _ member)

end

/-- SQL uniqueness over every sequence of dispatches in the order of their
transactions. A unique dispatch `first` that reports success took effect, one
refused as duplicate left both tables as they were, and one that failed did the one
or the other, the first only by an error of its commit. Unexpired locks stay. If
it took effect it inserted its one row, its keys stay locked until its expiry, and
a later unique dispatch that shares a key and takes effect reads the clock no
earlier than that expiry. -/
theorem unique_dispatches_apart {ρ : Type} (digest : List UInt8 -> String)
    (uniqueJobKey : Job -> String -> String) (database : Database ρ)
    (first : Dispatch ρ) (unique : 0 < first.uniqueTTL) :
    let result := dispatchJob digest uniqueJobKey database first
    (result.2 = .committed -> Committed database first result.1) ∧
    (result.2 = .duplicate -> result.1 = database) ∧
    (result.2 = .failed -> result.1 = database ∨
      first.fails .commit = true ∧ Committed database first result.1) ∧
    (∀ key expiry, database.locks key = some expiry -> first.now < expiry ->
      result.1.locks key = some expiry ∧
        pruneExpiredUniqueLocks first.now database.locks key = some expiry) ∧
    (Committed database first result.1 ->
      ∀ key ∈ first.keys digest uniqueJobKey, ∀ between : List (Dispatch ρ),
        ((∀ other ∈ between, 0 < other.uniqueTTL ->
            other.now < first.now + ttlMillis first.uniqueTTL) ->
          (run digest uniqueJobKey result.1 between).locks key =
            some (first.now + ttlMillis first.uniqueTTL)) ∧
        ∀ second : Dispatch ρ, 0 < second.uniqueTTL -> key ∈ second.keys digest uniqueJobKey ->
          Committed (run digest uniqueJobKey result.1 between) second
            (dispatchJob digest uniqueJobKey (run digest uniqueJobKey result.1 between) second).1 ->
          (∀ other ∈ between, 0 < other.uniqueTTL -> other.now ≤ second.now) ->
          1 ≤ ttlMillis first.uniqueTTL ∧ ttlMillis first.uniqueTTL ≤ second.now - first.now) := by
  intro result
  have settles : Settles digest uniqueJobKey database first result :=
    dispatchJob_settles database unique
  refine ⟨fun reported => ?_, fun refused => ?_, fun failed => ?_,
    fun key expiry held unexpired => ⟨locks_of_unexpired held fun _ => unexpired, ?_⟩,
    fun committed => ?_⟩
  · generalize result = answer at settles reported ⊢
    cases settles with
    | refused uncommitted => exact absurd reported uncommitted
    | committed => rfl
  · generalize result = answer at settles refused ⊢
    cases settles with
    | refused => rfl
    | committed told =>
      cases refused
      simp at told
  · generalize result = answer at settles failed ⊢
    cases settles with
    | refused => exact .inl rfl
    | committed told =>
      cases failed
      exact .inr ⟨by simpa using told, rfl⟩
  · simp [pruneExpiredUniqueLocks, held, Option.filter, unexpired]
  · generalize result = answer at settles committed ⊢
    cases settles with
    | refused => simp [Committed] at committed
    | @committed locks _ told free locked others =>
      refine fun key own between => ⟨locks_run (locked key own),
        fun second again shared repeated clock => ⟨?_, ?_⟩⟩
      · unfold ttlMillis
        split <;> omega
      · by_contra close
        have held : (run digest uniqueJobKey
            ⟨locks, database.jobs ++ [first.row]⟩ between).locks key = some first.expiresAt := by
          refine locks_run (locked key own) fun other member own' => ?_
          have := clock other member own'
          unfold Dispatch.expiresAt
          omega
        generalize run digest uniqueJobKey _ between = middle at held repeated
        have later := @dispatchJob_settles ρ digest uniqueJobKey second middle again
        generalize dispatchJob digest uniqueJobKey middle second = final at later repeated
        cases later with
        | refused => simp [Committed] at repeated
        | committed _ free' =>
          have := free' key shared _ held
          unfold Dispatch.expiresAt at this
          omega

/-- The answer of a commit is lost: the caller is told of a failure, but the row
and the lock stay. -/
theorem failed_commit_takes_effect :
    let result := dispatchJob (fun _ => "") (fun job queueName => queueName ++ job.type)
      ({} : Database Nat)
      { job := ⟨"mail", []⟩, queueName := "default", row := 0,
        uniqueTTL := 5000000, now := 0, applied := true,
        fails := fun statement => statement matches .commit }
    result.2 = .failed ∧ result.1.jobs = [0] ∧ result.1.locks "defaultmail" = some 5 := by
  decide +kernel

/-- Two dispatches of one job, the second one after the first expired. -/
theorem unique_dispatches_apart_expired :
    let key (job : Job) (queueName : String) := queueName ++ job.type
    let dispatch (now : Int) : Dispatch Nat :=
      { job := ⟨"mail", []⟩, queueName := "default", row := 0,
        uniqueTTL := 5000000, now := now, prunes := true }
    let database := (dispatchJob (fun _ => "") key {} (dispatch 0)).1
    (dispatchJob (fun _ => "") key database (dispatch 4)).2 = .duplicate ∧
      (dispatchJob (fun _ => "") key database (dispatch 5)).2 = .committed ∧
      ttlMillis 5000000 ≤ 5 - 0 := by
  refine ⟨by decide +kernel, by decide +kernel, ?_⟩
  exact (((unique_dispatches_apart (fun _ => "")
    (fun job queueName => queueName ++ job.type) ({} : Database Nat)
    { job := ⟨"mail", []⟩, queueName := "default", row := 0,
      uniqueTTL := 5000000, now := 0, prunes := true } (by decide)).2.2.2.2
    (by unfold Committed; decide +kernel)) "defaultmail" (by decide +kernel) []).2
    { job := ⟨"mail", []⟩, queueName := "default", row := 0,
      uniqueTTL := 5000000, now := 5, prunes := true } (by decide)
    (by decide +kernel) (by unfold Committed; decide +kernel) (by simp) |>.2

end JobQueue.SqlQueue.Uniqueness
