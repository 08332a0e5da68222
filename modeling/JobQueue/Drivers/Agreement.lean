import JobQueue.Drivers.Brokers
import JobQueue.SqlQueue.Worker

/-!
# The drivers agree

The life of a row of the SQL queue under a database that never fails is the
attempt protocol as well. So the in-process loop, the SQL queue and the three
broker drivers show a handler the same attempt numbers and end a job at the same
invocation with the same outcome.
-/

namespace JobQueue.Drivers

open Interleaving
open Scripted
open SqlQueue (Row RowState Table DbJob Settings Statement)

/-! ## The life of a row -/

/-- A table with the handler results still to come and the attempts shown. -/
abbrev RowSession : Type := Session Table Int (Option GoError)

/-- Change the table of a session. -/
def onTable (session : RowSession) (table : Table) : RowSession :=
  { session with state := table }

/-- One polling round of a worker that finds one job: the row, the token of its
claim, whether the handler reports its state as committed, and the time. -/
structure Round where
  id : Int
  token : String
  committed : Bool
  clock : Clock

/-- The answers of a database that never fails. -/
def reliableDatabase (settings : Settings) (round : Round) :
    (operation : SqlQueue.Op) -> RowSession -> Option (operation.Answer × RowSession)
  | .now, session => some (round.clock session.script, session)
  | .recoverStaleProcessing now, session =>
    some (.affected (session.state.affected fun _ row =>
        row.stale settings now),
      onTable session (SqlQueue.recoverStaleProcessing settings now session.state))
  | .claim now, session =>
    match session.state.get round.id with
    | none => some (.empty, session)
    | some row =>
      if row.claimable settings now then
        some (.claimed (SqlQueue.claimedJob round.id row round.token), onTable session
            (SqlQueue.claimRow round.id now round.token session.state))
      else some (.empty, session)
  | .lookup _, session => some (true, session)
  | .reports _, session => some (round.committed, session)
  | .result job, session =>
    match session.script with
    | [] => none
    | result :: rest =>
      some (result,
        { state := session.state, script := rest, shown := session.shown ++ [job.attempt] })
  | .settle _ statement, session =>
    some (.affected (statement.rowsAffected session.state),
      onTable session (statement.apply session.state))
  | .repair statement, session =>
    some (.affected (statement.rowsAffected session.state),
      onTable session (statement.apply session.state))
  | .commit _, session => some ((), session)
  | .observe _, session => some ((), session)

/-- Polling rounds at arbitrary times with arbitrary tokens. -/
inductive RowStep (settings : Settings) (id : Int) : RowSession -> RowSession -> Prop
  | round {session next : RowSession} {random : List UInt8} {token : String}
      {processed : Option String} (committed : Bool) (clock : Clock)
      (generated : SqlQueue.newDatabaseProcessingToken random = some token)
      (polled : (SqlQueue.workerRound settings).interpret
        (reliableDatabase settings ⟨id, token, committed, clock⟩) session =
          some (processed, next)) :
      RowStep settings id session next

/-- The row of a job between two rounds. -/
inductive RowProgress (settings : Settings) (id maxRetry : Int) (table : Table) : Progress -> Prop
  | running {row : Row} {attempt : Int} (found : table.get id = some row)
      (pending : row.state = .pending) (queue : row.queueName = settings.defaultQueue)
      (number : row.attempt = attempt) (budget : row.maxRetry = maxRetry) :
      RowProgress settings id maxRetry table (.running attempt)
  | succeeded (deleted : table.get id = none) :
      RowProgress settings id maxRetry table (.stopped .succeeded)
  | failed {row : Row} (found : table.get id = some row) (dead : row.state = .dead) :
      RowProgress settings id maxRetry table (.stopped .failed)

/-- How the job of a row ended. -/
def rowVerdict (id : Int) (table : Table) : Option Verdict :=
  match table.get id with
  | none => some .succeeded
  | some row => if row.state = .dead then some .failed else none

variable {settings : Settings} {maxRetry : Int} {round : Round}

theorem RowProgress.verdict_eq
    {id : Int} (current : RowProgress settings id maxRetry table progress) :
    rowVerdict id table = progress.verdict := by
  cases current with
  | running found pending => simp [rowVerdict, found, pending, Progress.verdict]
  | succeeded deleted => simp [rowVerdict, deleted, Progress.verdict]
  | failed found dead => simp [rowVerdict, found, dead, Progress.verdict]

section Rounds

@[simp] theorem interpret_observeRecovered :
    (SqlQueue.observeRecovered rows).interpret
      (reliableDatabase settings round) session = some ((), session) := by
  induction rows with
  | zero => rfl
  | succ rows ih => simpa [SqlQueue.observeRecovered, SqlQueue.ask, reliableDatabase] using ih

variable {session : RowSession} {row : Row} {job : DbJob}

/-- Stale recovery leaves a row that nobody processes. -/
theorem get_recoverStaleProcessing {id : Int}
    (idle : ∀ row, table.get id = some row -> row.state ≠ .processing) :
    (SqlQueue.recoverStaleProcessing settings now table).get id = table.get id := by
  rw [SqlQueue.recoverStaleProcessing, KeyedTable.get_update]
  cases found : table.get id with
  | none => rfl
  | some row =>
    have fresh : row.stale settings now = false := by simp [Row.stale, idle row found]
    simp [fresh]

/-- The claim loop makes at least one try. -/
theorem claimLimit_pos (settings : Settings) :
    ∃ limit, (if settings.optimisticClaimLoop then 5 else 1) = limit + 1 := by
  split
  · exact ⟨4, rfl⟩
  · exact ⟨0, rfl⟩

/-- The table after the recovery at the beginning of a round. -/
def recovered (settings : Settings) (round : Round) (session : RowSession) : Table :=
  SqlQueue.recoverStaleProcessing settings (round.clock session.script) session.state

/-- A round that finds its row claimable claims it. -/
theorem interpret_claimOne_claimed
    (found : (recovered settings round session).get round.id = some row)
    (claimable : row.claimable settings (round.clock session.script) = true) :
    (SqlQueue.claimOne settings).interpret (reliableDatabase settings round) session =
      some (.ok (some (SqlQueue.claimedJob round.id row round.token)), onTable session
          (SqlQueue.claimRow round.id (round.clock session.script)
            round.token (recovered settings round session))) := by
  obtain ⟨limit, positive⟩ := claimLimit_pos settings
  simp only [recovered] at found ⊢
  simp [SqlQueue.claimOne, SqlQueue.ask, reliableDatabase, onTable, positive,
    SqlQueue.claimLoop, found, claimable]

/-- A round that does not find its row claimable claims nothing. -/
theorem interpret_claimOne_empty
    (unclaimable : ∀ row, (recovered settings round session).get round.id = some row ->
        row.claimable settings (round.clock session.script) = false) :
    (SqlQueue.claimOne settings).interpret (reliableDatabase settings round) session =
      some (.ok none, onTable session (recovered settings round session)) := by
  obtain ⟨limit, positive⟩ := claimLimit_pos settings
  simp only [recovered] at unclaimable ⊢
  cases found : (SqlQueue.recoverStaleProcessing settings
      (round.clock session.script) session.state).get round.id with
  | none =>
    simp [SqlQueue.claimOne, SqlQueue.ask, reliableDatabase, onTable,
      positive, SqlQueue.claimLoop, found]
  | some row =>
    simp [SqlQueue.claimOne, SqlQueue.ask, reliableDatabase, onTable,
      positive, SqlQueue.claimLoop, found, unclaimable row found]

/-! ### Settling a claim -/

/-- The first settlement that is confirmed ends the loop. -/
theorem interpret_finalizeLoop
    (confirmed : finalize.interpret (reliableDatabase settings round) session = some (none, next))
    (attempts : Nat) :
    (SqlQueue.finalizeLoop operation finalize (attempts + 1) lastErr).interpret
        (reliableDatabase settings round) session = some (none, next) := by
  simp [SqlQueue.finalizeLoop, confirmed]

/-- A statement that finds its row affects that row. -/
theorem settled_of_selects {statement : Statement} (found : table.get statement.id = some row)
    (fenced : statement.selects statement.id row = true) :
    statement.rowsAffected table = 1 ∧
      (statement.apply table).get statement.id = statement.change row := by
  rcases statement.rowsAffected_cases table with
    ⟨unaffected, _⟩ | ⟨affected, other, same, _, changed⟩
  · rw [statement.rowsAffected_eq, found] at unaffected
    simp [fenced] at unaffected
  · rw [found] at same
    cases same
    exact ⟨affected, changed⟩

/-- A claim whose row is processing under its token. -/
structure Holds (settings : Settings) (table : Table) (job : DbJob) (row : Row) : Prop where
  positive : 0 < job.id
  generated : job.processingToken ≠ ""
  found : table.get job.id = some row
  held : Statement.Held job.processingToken row
  queue : row.queueName = settings.defaultQueue
  attempt : job.attempt = row.attempt
  budget : job.maxRetry = row.maxRetry

theorem Holds.claim_eq (holds : Holds settings table job row) :
    SqlQueue.databaseProcessingClaim job = .ok (job.id, job.processingToken) := by
  have positive := holds.positive
  have generated := holds.generated
  simp [SqlQueue.databaseProcessingClaim, generated, show ¬job.id ≤ 0 by omega]

section Settling

variable (holds : Holds settings session.state job row)
include holds

theorem interpret_markDone :
    ∃ table, (SqlQueue.markDone job).interpret (reliableDatabase settings round)
          session = some (none, onTable session table) ∧
      RowProgress settings job.id row.maxRetry table
        (settleAttempt row.maxRetry row.attempt none) := by
  obtain ⟨affected, changed⟩ := @settled_of_selects _ _
    (.done job.id job.processingToken) holds.found (by
      simp [Statement.selects, Statement.id, Statement.token, holds.held.1, holds.held.2])
  refine ⟨_, ?_, .succeeded changed⟩
  simp [SqlQueue.markDone, holds.claim_eq, SqlQueue.ask, reliableDatabase,
    affected, SqlQueue.requireDatabaseSettlementRow]

/-- A failure is persisted as it was classified. -/
theorem interpret_markFailed_classified
    (classified : SqlQueue.classifyDatabaseFailure job error
      (round.clock session.script) = .ok settlement) :
    ∃ table, (SqlQueue.markFailed job error).interpret (reliableDatabase settings round) session =
        some (none, onTable session table) ∧
      table.get job.id = (SqlQueue.failureStatement job error settlement
        job.id job.processingToken).change row := by
  have own : (SqlQueue.failureStatement job error settlement job.id
      job.processingToken).id = job.id := by
    unfold SqlQueue.failureStatement
    split <;> rfl
  have fenced : (SqlQueue.failureStatement job error settlement job.id
      job.processingToken).selects job.id row = true := by
    unfold SqlQueue.failureStatement
    split <;> simp [Statement.selects, Statement.id, Statement.token, holds.held.1, holds.held.2]
  obtain ⟨affected, changed⟩ := settled_of_selects (own.symm ▸ holds.found) (own.symm ▸ fenced)
  rw [own] at changed
  refine ⟨_, ?_, changed⟩
  simp [SqlQueue.markFailed, holds.claim_eq, SqlQueue.ask, reliableDatabase,
    classified, affected, SqlQueue.requireDatabaseSettlementRow]

theorem interpret_markFailed (error : GoError) :
    ∃ table, (SqlQueue.markFailed job error).interpret (reliableDatabase settings round) session =
        some (none, onTable session table) ∧
      RowProgress settings job.id row.maxRetry table
        (settleAttempt row.maxRetry row.attempt (some error)) := by
  have same : job.deliveryAttempt =
      { number := row.attempt, maxRetry := row.maxRetry } := by
    rw [DbJob.deliveryAttempt, holds.attempt, holds.budget]
  rw [settleAttempt, ← same]
  cases decided : classifyAttempt job.deliveryAttempt (some error) with
  | succeeded => cases (classifyAttempt_eq_succeeded_iff _ _).mp decided
  | failed =>
    obtain ⟨table, settled, changed⟩ := interpret_markFailed_classified
      holds (by rw [SqlQueue.classifyDatabaseFailure, decided])
    exact ⟨table, settled, .failed changed rfl⟩
  | retry =>
    obtain ⟨table, settled, changed⟩ := interpret_markFailed_classified
      holds (by rw [SqlQueue.classifyDatabaseFailure, decided])
    exact ⟨table, settled, .running changed rfl holds.queue (by rw [← holds.attempt]; rfl) rfl⟩
  | redeliver =>
    obtain ⟨table, settled, changed⟩ := interpret_markFailed_classified
      holds (by rw [SqlQueue.classifyDatabaseFailure, decided])
    exact ⟨table, settled, .running changed rfl holds.queue holds.attempt rfl⟩

/-- A claimed job is shown to the handler and its row settled by the result. -/
theorem interpret_processJob (script : session.script = result :: rest) :
    ∃ table, (SqlQueue.processJob settings job).interpret
          (reliableDatabase settings round) session =
        some ((), { state := table, script := rest, shown := session.shown ++ [job.attempt] }) ∧
      RowProgress settings job.id row.maxRetry table
        (settleAttempt row.maxRetry row.attempt result) := by
  -- The row is settled for the job as the handler leaves it.
  have reported : Holds settings session.state
      { job with applicationStateCommitted := round.committed } row :=
    { holds with }
  cases result with
  | none =>
    obtain ⟨table, settled, current⟩ := @interpret_markDone settings round
      ⟨session.state, rest, session.shown ++ [job.attempt]⟩ _ _ reported
    refine ⟨table, ?_, current⟩
    have final : (SqlQueue.markDoneWithRetry _).interpret _ _ = _ :=
      interpret_finalizeLoop settled 2
    simp [SqlQueue.processJob, SqlQueue.ask, reliableDatabase, script, final, onTable]
  | some error =>
    obtain ⟨table, settled, current⟩ := @interpret_markFailed settings round ⟨session.state, rest,
      session.shown ++ [job.attempt]⟩ _ _ reported error
    refine ⟨table, ?_, current⟩
    have final : (SqlQueue.markFailedWithRetry _ error).interpret _ _ = _ :=
      interpret_finalizeLoop settled 2
    have archived : ∀ job session, (SqlQueue.observeConfirmedProcessArchive job error).interpret
          (reliableDatabase settings round) session = some ((), session) := by
      intro job session
      unfold SqlQueue.observeConfirmedProcessArchive
      split <;> rfl
    simp [SqlQueue.processJob, SqlQueue.ask, reliableDatabase, script, final, onTable, archived]

end Settling

/-- A claim holds its row. -/
theorem holds_claimed {id : Int} (positive : 0 < id) (generated : token ≠ "")
    (found : table.get id = some row) (pending : row.state = .pending)
    (queue : row.queueName = settings.defaultQueue) :
    Holds settings (SqlQueue.claimRow id now token table)
      (SqlQueue.claimedJob id row token) (row.claim now token) where
  positive := positive
  generated := generated
  found := by
    have own : (SqlQueue.claimedJob id row token).id = id := rfl
    rw [own, SqlQueue.claimRow, KeyedTable.get_update, found]
    simp [pending]
  held := ⟨rfl, rfl⟩
  queue := queue
  attempt := rfl
  budget := rfl

end Rounds

/-- The row of a session is where the protocol is. -/
def rowProgress (settings : Settings) (id maxRetry : Int)
    (session : RowSession) : Progress -> Prop :=
  RowProgress settings id maxRetry session.state

/-- What recovery leaves of a row between two rounds. -/
theorem get_recovered {progress : Progress}
    (current : RowProgress settings round.id maxRetry session.state progress) :
    (recovered settings round session).get round.id = session.state.get round.id := by
  apply get_recoverStaleProcessing
  intro row found
  cases current with
  | running same pending =>
    rw [found] at same
    cases same
    simp [pending]
  | succeeded deleted =>
    rw [found] at deleted
    cases deleted
  | failed same dead =>
    rw [found] at same
    cases same
    simp [dead]

/-- A round that claims nothing leaves its row where it is. -/
theorem rowProgress_recovered {progress : Progress}
    (current : RowProgress settings round.id maxRetry session.state progress) :
    RowProgress settings round.id maxRetry (recovered settings round session) progress := by
  have kept := get_recovered current
  cases current with
  | running found pending queue number budget =>
    exact .running (kept.trans found) pending queue number budget
  | succeeded deleted => exact .succeeded (kept.trans deleted)
  | failed found dead => exact .failed (kept.trans found) dead

section WholeRounds

variable {session : RowSession}

/-- A round that claims its row shows the attempt to the handler and settles
the row by the result. -/
theorem interpret_workerRound_claimed (positive : 0 < round.id) (generated : round.token ≠ "")
    (found : session.state.get round.id = some row) (pending : row.state = .pending)
    (claimable : row.claimable settings (round.clock session.script) = true)
    {result : Option GoError} {rest : List (Option GoError)}
    (script : session.script = result :: rest) :
    ∃ table, (SqlQueue.workerRound settings).interpret (reliableDatabase settings round) session =
        some (some round.token,
          { state := table, script := rest, shown := session.shown ++ [row.attempt] }) ∧
      RowProgress settings round.id row.maxRetry table
        (settleAttempt row.maxRetry row.attempt result) := by
  have queue : row.queueName = settings.defaultQueue := by
    simp only [Row.claimable, Bool.and_eq_true, decide_eq_true_eq] at claimable
    exact claimable.1.1
  have kept := (get_recovered (@RowProgress.running settings round.id row.maxRetry session.state row
      row.attempt found pending queue rfl rfl)).trans found
  have claimed := interpret_claimOne_claimed kept claimable
  obtain ⟨table, settled, current⟩ := @interpret_processJob settings round
    (onTable session (SqlQueue.claimRow round.id (round.clock session.script) round.token
      (recovered settings round session))) _ _
    (holds_claimed positive generated kept pending queue) _ _ script
  refine ⟨table, ?_, current⟩
  simp only [SqlQueue.workerRound, Prog.interpret_bind, claimed, Option.bind_some, settled]
  rfl

/-- Without a handler result a round that claims its row does not end. -/
theorem interpret_workerRound_nil (found : session.state.get round.id = some row)
    (pending : row.state = .pending)
    (claimable : row.claimable settings (round.clock session.script) = true)
    (script : session.script = []) :
    (SqlQueue.workerRound settings).interpret (reliableDatabase settings round) session = none := by
  have kept : (recovered settings round session).get round.id = some row := by
    rw [recovered, get_recoverStaleProcessing, found]
    intro other same
    rw [found] at same
    cases same
    simp [pending]
  have stuck : ∀ table job, (SqlQueue.processJob settings job).interpret
        (reliableDatabase settings round) (onTable session table) = none :=
    fun table job => by
      simp [SqlQueue.processJob, SqlQueue.ask, reliableDatabase, onTable, script]
  simp only [SqlQueue.workerRound, Prog.interpret_bind,
    interpret_claimOne_claimed kept claimable, Option.bind_some, stuck]
  rfl

end WholeRounds

/-- The SQL queue runs the attempt protocol. -/
theorem row_implements {id : Int} (positive : 0 < id) :
    Implements (attempts maxRetry) (RowStep settings id) (rowProgress settings id maxRetry) where
  sound := by
    intro session next state current step
    obtain ⟨committed, clock, generated, polled⟩ := step
    rename_i random token processed
    have kept := @rowProgress_recovered settings maxRetry
      ⟨id, token, committed, clock⟩ session state current
    have unrecovered := @get_recovered settings maxRetry
      ⟨id, token, committed, clock⟩ session state current
    have idle : (∀ row,
        (recovered settings ⟨id, token, committed, clock⟩ session).get id = some row ->
            row.claimable settings (clock session.script) = false) ->
        next.script = session.script ∧ next.shown = session.shown ∧
          rowProgress settings id maxRetry next state := by
      intro unclaimable
      simp only [SqlQueue.workerRound, Prog.interpret_bind,
        interpret_claimOne_empty unclaimable, Option.bind_some] at polled
      cases polled
      exact ⟨rfl, rfl, kept⟩
    cases current with
    | @running row attempt found pending queue number budget =>
      subst number budget
      cases claimable : row.claimable settings (clock session.script) with
      | false =>
        refine .inl (idle ?_)
        intro other same
        rw [unrecovered, found] at same
        cases same
        exact claimable
      | true =>
        cases script : session.script with
        | nil =>
          rw [interpret_workerRound_nil found pending claimable script] at polled
          cases polled
        | cons result rest =>
          obtain ⟨table, settled, moved⟩ :=
            @interpret_workerRound_claimed settings
              ⟨id, token, committed, clock⟩ session row positive
              (SqlQueue.ne_empty_of_valid (SqlQueue.databaseProcessingTokenValid_new generated))
              found pending claimable _ _ script
          rw [settled] at polled
          cases polled
          exact .inr ⟨_, result, rfl, rfl, rfl, moved⟩
    | succeeded deleted =>
      refine .inl (idle ?_)
      intro row same
      rw [unrecovered, deleted] at same
      cases same
    | failed found dead =>
      refine .inl (idle ?_)
      intro row same
      rw [unrecovered, found] at same
      cases same
      simp [Row.claimable, dead]
  live := by
    intro session state value result rest current shows script
    cases current with
    | @running row attempt found pending queue number budget =>
      subst number budget
      cases shows
      have generated : SqlQueue.newDatabaseProcessingToken
          (List.replicate SqlQueue.databaseProcessingTokenBytes 0) = some _ := rfl
      -- The row is claimed when its time has come.
      obtain ⟨table, settled, moved⟩ := @interpret_workerRound_claimed settings ⟨id, _, false,
        fun _ => row.availableAt⟩ session row positive
        (SqlQueue.ne_empty_of_valid (SqlQueue.databaseProcessingTokenValid_new generated)) found
        pending (by simp [Row.claimable, pending, queue]) _ _ script
      exact ⟨⟨table, rest, _⟩, .single (.round false _ generated settled), rfl, rfl, moved⟩
    | succeeded deleted => cases shows
    | failed found dead => cases shows

/-! ## Agreement -/

/-- A driver does what a loop does: after the results it has consumed, one for
each attempt shown, it has shown the same attempts and ended or not ended the
job in the same way, and it can go as far as the loop goes. -/
def AgreesWith {σ : Type} (loop : List (Option GoError) -> List Int × LoopState)
    (step : Session σ Int (Option GoError) -> Session σ Int (Option GoError) -> Prop)
    (verdict : σ -> Option Verdict) (start : Session σ Int (Option GoError)) : Prop :=
  (∀ last, Relation.ReflTransGen step start last -> ∃ used, start.script = used ++ last.script ∧
      last.shown.length = used.length ∧ last.shown = (loop used).1 ∧
      verdict last.state = (loop used).2.verdict) ∧
  ∃ last, Relation.ReflTransGen step start last ∧ last.shown = (loop start.script).1 ∧
    verdict last.state = (loop start.script).2.verdict

/-- With an explicit budget the in-process loop is the attempt protocol. -/
theorem runWithRetry_eq_trace (budget : 0 ≤ maxRetry) (backoff : Option Int)
    (uncancelled : ∀ delay, wait delay = none) (script : List (Option GoError)) :
    (runWithRetry { maxRetry := some maxRetry, backoff := backoff } wait
        script).1 = (trace (attempts maxRetry) (.running 0) script).1 ∧
      (runWithRetry { maxRetry := some maxRetry, backoff := backoff } wait script).2.verdict =
        (trace (attempts maxRetry) (.running 0) script).2.verdict := by
  have same : (if 0 < maxRetry then maxRetry else 0) = maxRetry := by split <;> omega
  simp only [runWithRetry, same]
  exact retryLoop_eq_trace uncancelled 0

/-- A driver that implements the protocol agrees with a loop that is the
protocol. -/
theorem agreesWith_of_implements {σ : Type}
    (follows : ∀ script, (loop script).1 = (trace (attempts maxRetry) (.running 0) script).1 ∧
        (loop script).2.verdict = (trace (attempts maxRetry) (.running 0) script).2.verdict)
    {step : Session σ Int (Option GoError) -> Session σ Int (Option GoError) -> Prop}
    {progress : Session σ Int (Option GoError) -> Progress -> Prop}
    (implements : Implements (attempts maxRetry) step progress)
    {verdict : σ -> Option Verdict}
    (judged : ∀ {session current}, progress session current ->
      verdict session.state = current.verdict)
    {start : Session σ Int (Option GoError)} (fresh : start.shown = [])
    (started : progress start (.running 0)) :
    AgreesWith loop step verdict start := by
  constructor
  · intro last reached
    obtain ⟨used, consumed, counted, shown, current⟩ := implements.trace_of_run started reached
    rw [fresh, List.nil_append] at shown
    obtain ⟨sameShown, sameVerdict⟩ := follows used
    refine ⟨used, consumed, ?_, ?_, ?_⟩
    · rw [shown, counted]
    · rw [shown, sameShown]
    · rw [judged current, sameVerdict]
  · obtain ⟨last, reached, shown, current⟩ := implements.run_of_trace started rfl
    rw [fresh, List.nil_append] at shown
    obtain ⟨sameShown, sameVerdict⟩ := follows start.script
    refine ⟨last, reached, ?_, ?_⟩
    · rw [shown, sameShown]
    · rw [judged current, sameVerdict]

/-- The SQL queue and the three broker drivers agree with the in-process loop on
every script of handler results. No attempt number passes the budget, and from
one attempt to the next the number stays after an uncommitted error and grows
by one after any other, which is then not a permanent one. -/
theorem drivers_agree {maxRetry : Int} (budget : 0 ≤ maxRetry)
    {wait : Int -> Option GoError} (uncancelled : ∀ delay, wait delay = none)
    (now : Int) (jobType : String) {options : DriverJobOptions}
    (explicit : options.maxRetry = some maxRetry)
    (settings : Settings) {table : Table} {id : Int} (positive : 0 < id)
    {timeoutSeconds : Option Int} {backoffMillis availableAt : Int}
    (dispatched : table.get id =
      some (.dispatched settings.defaultQueue jobType timeoutSeconds maxRetry
        backoffMillis availableAt))
    (script : List (Option GoError)) :
    let loop := runWithRetry { maxRetry := some maxRetry, backoff := options.backoff } wait
    AgreesWith loop (RowStep settings id) (rowVerdict id)
        { state := table, script := script, shown := [] } ∧
      (∀ kind, AgreesWith loop (BrokerStep kind) Broker.verdict
        (readySession (messageForJob now jobType options) none script [])) ∧
      (∀ shown ∈ (loop script).1, 0 ≤ shown ∧ shown ≤ maxRetry) ∧
      ∀ {index : Nat} {current next : Int}, (loop script).1[index]? = some current ->
        (loop script).1[index + 1]? = some next -> ∃ error, script[index]? = some (some error) ∧
            ((error.isUncommitted = true ∧ next = current) ∨
              (error.isUncommitted = false ∧ error.isPermanent = false ∧ next = current + 1)) := by
  intro loop
  have follows := runWithRetry_eq_trace budget options.backoff uncancelled
  refine ⟨?_, ?_, ?_, ?_⟩
  · exact agreesWith_of_implements follows (row_implements positive)
      RowProgress.verdict_eq rfl (.running dispatched rfl rfl rfl rfl)
  · intro kind
    exact agreesWith_of_implements follows broker_implements BrokerProgress.verdict_eq rfl
      (.running rfl rfl rfl (by simp [messageForJob, explicit]))
  · intro shown member
    rw [(follows script).1] at member
    exact trace_attempts_bounded budget shown member
  · intro index current next shown later
    rw [(follows script).1] at shown later
    obtain ⟨error, given, same | ⟨committed, repeatable, grown, _⟩⟩ :=
      trace_attempts_next shown later
    · exact ⟨error, given, .inl same⟩
    · exact ⟨error, given, .inr ⟨committed, repeatable, grown⟩⟩

/-- A job with one retry, as dispatched to a broker. -/
def emailOptions : DriverJobOptions :=
  { queueName := "default", maxRetry := some 1, backoff := none, timeout := none, delay := 0 }

/-- The same job as dispatched to the SQL queue. -/
def emailTable : Table :=
  KeyedTable.empty.insert 1 (.dispatched "default" "emails:send" none 1 0 0)

/-- Settings of an SQL worker. -/
def emailSettings : Settings :=
  { defaultQueue := "default", optimisticClaimLoop := true,
    processingRecoveryGrace := 2000, processingLeaseNoTimeout := 300000,
    pollInterval := 50 }

/-- An infrastructure failure, an application failure, a success. -/
def emailScript : List (Option GoError) :=
  [some (.uncommitted (.text "connection reset")), some (.text "mailbox full"), none]

/-- The same three attempts under every driver. -/
theorem drivers_agree_three_attempts :
    (∃ last, Relation.ReflTransGen (RowStep emailSettings 1)
        { state := emailTable, script := emailScript, shown := [] } last ∧
      last.shown = [0, 0, 1] ∧
      rowVerdict 1 last.state = some .succeeded) ∧
    ∀ kind, ∃ last, Relation.ReflTransGen (BrokerStep kind)
        (readySession (messageForJob 0 "emails:send" emailOptions) none emailScript []) last ∧
      last.shown = [0, 0, 1] ∧ last.state.verdict = some .succeeded := by
  have agreed := @drivers_agree 1 (by decide) (fun _ => none) (fun _ => rfl)
    0 "emails:send" emailOptions rfl emailSettings emailTable 1 (by decide)
    none 0 0 (by decide +kernel) emailScript
  have shown : (runWithRetry { maxRetry := some 1, backoff := none }
      (fun _ => none) emailScript).1 = [0, 0, 1] := by decide
  have verdict : (runWithRetry { maxRetry := some 1, backoff := none }
      (fun _ => none) emailScript).2.verdict = some .succeeded := by decide
  refine ⟨?_, ?_⟩
  · obtain ⟨last, reached, attempts, ended⟩ := agreed.1.2
    exact ⟨last, reached, attempts.trans shown, ended.trans verdict⟩
  · intro kind
    obtain ⟨last, reached, attempts, ended⟩ := (agreed.2.1 kind).2
    exact ⟨last, reached, attempts.trans shown, ended.trans verdict⟩

end JobQueue.Drivers
