import JobQueue.SqlQueue.Lineage

/-!
# The states under which jobs are listed

`ListJobs` selects rows by a `WHERE` clause for the state it is asked for, while
the state it shows is read off each row by `databaseJobState`. The clauses are
exhaustive because no run lets the attempt of a row fall below zero.
-/

namespace JobQueue.SqlQueue

open Interleaving

/-- `JobState`, a string in the source. -/
inductive JobState
  | pending
  | active
  | scheduled
  | retry
  | archived
  | completed
  | other (name : String)
  deriving DecidableEq, Repr

/-- The state that a row shows. -/
def databaseJobState (row : Row) (now : Int) : JobState :=
  match row.state with
  | .processing => .active
  | .dead => .archived
  | .pending =>
    if row.attempt > 0 then .retry
    else if row.availableAt > now then .scheduled else .pending

/-- The rows that `jobsWhereClause` selects; other states are an error. -/
def jobsWhereClause (queueName : String) (state : JobState) (now : Int) :
    Except GoError (Row -> Bool) :=
  let selects (condition : Row -> Bool) (row : Row) : Bool :=
    row.queueName = normalizeQueueName queueName && condition row
  let unsupported (name : String) : GoError := .text ("unsupported queue job state " ++ quoted name)
  match state with
  | .pending => .ok (selects fun row =>
      row.state = .pending && row.attempt = 0 && row.availableAt ≤ now)
  | .active => .ok (selects fun row => row.state = .processing)
  | .scheduled => .ok (selects fun row =>
      row.state = .pending && row.attempt = 0 && row.availableAt > now)
  | .retry => .ok (selects fun row => row.state = .pending && row.attempt > 0)
  | .archived => .ok (selects fun row => row.state = .dead)
  | .completed => .error (unsupported "completed")
  | .other name => .error (unsupported name)

/-- A clause selects the rows that are shown under its state. -/
theorem jobsWhereClause_eq (supported : jobsWhereClause queueName state now = .ok selects)
    {row : Row} (counted : 0 ≤ row.attempt) :
    selects row = true ↔ row.queueName = normalizeQueueName queueName ∧
      databaseJobState row now = state := by
  rcases row with ⟨_, _, _, _, _, attempt, available, _, _, _, _ | _ | _⟩ <;>
    cases state <;> cases supported <;> simp [databaseJobState] <;> grind

/-! ## Attempts -/

/-- A worker changes rows without lowering their attempts. -/
theorem Effect.attempts (effect : Effect settings label before phase world) (fenced : Fenced before)
    (linked : Linked before) (known : claimsFenced.thread label phase before)
    {id : Int} (found : world.table.get id = some next) :
    ∃ row, before.table.get id = some row ∧ row.attempt ≤ next.attempt := by
  cases effect with
  | same same => exact ⟨next, same.table ▸ found, Int.le_refl _⟩
  | recover now =>
    simp only [get_recoverStaleProcessing] at found
    obtain ⟨row, present, same⟩ := Option.map_eq_some_iff.mp found
    refine ⟨row, present, ?_⟩
    split at same <;> cases same <;> exact Int.le_refl _
  | claim present claimable =>
    simp only [World.claim, get_claimRow present (Row.pending_of_claimable claimable)] at found
    split at found
    · rename_i same
      cases found
      refine ⟨_, same ▸ present, ?_⟩
      exact Int.le_refl _
    · exact ⟨next, found, Int.le_refl _⟩
  | @write _ _ _ _ statement _ _ writes executed =>
    by_cases same : id = statement.id
    · subst same
      rw [executed.own] at found
      refine ⟨_, executed.found, ?_⟩
      cases (writes.continues fenced linked (known _ rfl) executed found).2 <;> omega
    · exact ⟨next, executed.others id same ▸ found, Int.le_refl _⟩

/-- No attempt is negative. -/
def attemptsCountUp : Assertions World Phase where
  shared := fun _ world => ∀ id row, world.table.get id = some row -> 0 ≤ row.attempt
  thread := fun _ _ _ => True

theorem attemptsCountUp_external
    (fenced : Fenced before) (counted : attemptsCountUp.shared bound before)
    (moved : external settings bound before move = some (world, started)) :
    attemptsCountUp.shared larger world := by
  intro id next found
  cases move <;> cases moved
  · rw [KeyedTable.get_insert _ fenced.get_nextId] at found
    split at found
    · cases found
      exact Int.le_refl _
    · exact counted id next found
  · rename_i admin
    rcases admin.get_apply_cases before.table id with
      same | gone | ⟨row, later, present, changed, _, _, attempt, _⟩
    · exact counted id next (same ▸ found)
    · cases gone.symm.trans found
    · cases changed.symm.trans found
      exact attempt ▸ counted id row present
  · exact counted id next found

theorem attemptsCountUp_kept :
    tokenHistory.KeptOver attemptsCountUp (queue settings) .always workerProtocol where
  operation := by
    intro bound label phase after before world operation answer choice _
      shared known moved executed _
    refine ⟨fun id next found => ?_, trivial, fun _ _ _ _ _ _ => trivial⟩
    obtain ⟨row, present, grows⟩ := (effect_operation moved executed).attempts
      shared.1.1 shared.1.2 known.1.1 found
    exact Int.le_trans (shared.2 id row present) grows
  blocked := fun _ _ executed => absurd executed exec_answers
  finished := by
    intro bound label phase before world result _ shared _ _ settled
    cases settled
    exact ⟨shared.2, fun _ _ _ _ _ _ => trivial⟩
  idle := fun shared moved _ =>
    ⟨attemptsCountUp_external shared.1.1 shared.2 moved, fun _ _ _ _ _ _ => trivial⟩
  started := fun shared moved _ _ =>
    ⟨attemptsCountUp_external shared.1.1 shared.2 moved, trivial, fun _ _ _ _ _ _ => trivial⟩

/-- In every run, whatever workers, dispatchers and administrators do, a row is
selected by the clause of the state it is shown under and by no other. -/
theorem jobs_listed_as_shown (unclaimed : Unclaimed table nextId)
    (counted : ∀ id row, table.get id = some row -> 0 ≤ row.attempt)
    (reached : (queue settings).Reaches .always (.initial (.start table nextId)) config)
    {id : Int} (found : config.world.table.get id = some row) :
    (∃ selects, jobsWhereClause queueName (databaseJobState row now) now = .ok selects) ∧
    ∀ state selects, jobsWhereClause queueName state now = .ok selects ->
      (selects row = true ↔ row.queueName = normalizeQueueName queueName ∧
        databaseJobState row now = state) := by
  have initial : (tokenHistory.and attemptsCountUp).Hold workerProtocol
      (Config.initial (World.start table nextId)) :=
    .initial ⟨⟨unclaimed.fenced, unclaimed.linked⟩, counted⟩
  have hold := initial.reaches governs
    ((tokenHistory_kept settings).over attemptsCountUp_kept) reached
  refine ⟨?_, fun state selects supported =>
    jobsWhereClause_eq supported (hold.shared.2 id row found)⟩
  unfold databaseJobState
  repeat' split
  all_goals exact ⟨_, rfl⟩

theorem jobs_listed_as_shown_lease_expires :
    ∃ row selects, databaseJobState row 0 = .active ∧
      jobsWhereClause "" .active 0 = .ok selects ∧ selects row = true := by
  have passed : ((queue sqliteSettings).run .always (.initial (.start .empty 1))
      leaseExpires).any (fun config => (config.world.table.get 1).any fun row =>
        decide (row.queueName = "default" ∧ databaseJobState row 0 = .active)) =
      true := by
    decide +kernel
  obtain ⟨config, reached, seen⟩ := Machine.Reaches.of_any passed
  obtain ⟨row, found, shown⟩ := (Option.any_eq_true _ _).mp seen
  obtain ⟨queued, active⟩ := of_decide_eq_true shown
  refine ⟨row, _, active, rfl, ?_⟩
  exact ((jobs_listed_as_shown unclaimed_empty (fun _ _ found => by cases found)
    reached found).2 .active _ rfl).mpr ⟨queued, active⟩

end JobQueue.SqlQueue
