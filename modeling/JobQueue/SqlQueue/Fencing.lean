import JobQueue.SqlQueue.Worker

/-!
# Claims of the SQL queue are fenced

Only a claim puts a row into processing, and it does so under a token that no
claim had before. So a row that left the processing state under some token can
never be processing under it again, and the statements of a superseded claim
select nothing.
-/

namespace JobQueue.SqlQueue

open Interleaving

/-! ## What operations do -/

/-- Operations that touch neither the table nor the claims. -/
def Op.quiet : Op -> Bool
  | .recoverStaleProcessing _ => false
  | .claim _ => false
  | .settle _ _ => false
  | .repair _ => false
  | _ => true

/-- The table, its claims and its changes are the same. -/
structure World.SameRows (before after : World) : Prop where
  table : after.table = before.table
  nextId : after.nextId = before.nextId
  claims : after.claims = before.claims
  changes : after.changes = before.changes

variable {settings : Settings} {label : Nat} {before world : World}

variable {row : Row}

theorem exec_quiet (quiet : operation.quiet = true)
    (executed : exec settings label before operation choice = some (answer, world)) :
    before.SameRows world := by
  cases operation <;> cases choice <;> cases quiet <;> cases executed <;> first
      | exact ⟨rfl, rfl, rfl, rfl⟩
      | (constructor <;> split <;> rfl)

theorem exec_recover
    (executed : exec settings label before (.recoverStaleProcessing now)
      choice = some (answer, world)) :
    world = before ∨
    world = { before with table := recoverStaleProcessing settings now before.table } := by
  cases choice with
  | execution execution =>
    cases execution <;> cases executed
    · exact .inr rfl
    · exact .inr rfl
    · exact .inr rfl
    · exact .inl rfl
  | _ => cases executed

/-- The world after a claim. -/
def World.claim (world : World) (label : Nat) (id now : Int) (row : Row) (token : String) : World :=
  { world with
    table := claimRow id now token world.table
    claims :=
      { label := label, job := claimedJob id row token } :: world.claims }

/-- A claim transaction claims one row under a fresh token, whether or not the
worker learns of it, or does nothing. -/
theorem exec_claim
    (executed : exec settings label before (.claim now) choice = some (some answer, world)) :
    (world = before ∧ ∀ job, answer ≠ .claimed job) ∨
    ∃ id row token, before.table.get id = some row ∧ row.claimable settings now = true ∧
      databaseProcessingTokenValid token = true ∧ (∀ claim ∈ before.claims,
      claim.job.processingToken ≠ token) ∧ world = before.claim label id now row token ∧ ∀ job,
      answer = .claimed job -> job = claimedJob id row token := by
  cases choice with
  | claim id random commitError =>
    simp only [exec] at executed
    split at executed
    · rename_i row token found created
      split at executed
      · rename_i allowed
        obtain ⟨claimable, unused⟩ := Bool.and_eq_true_iff.mp allowed
        cases executed
        refine .inr ⟨id, row, token, found, claimable, databaseProcessingTokenValid_new created,
          by simpa [World.unused] using unused, rfl, ?_⟩
        intro job same
        cases commitError <;> cases same
        rfl
      · cases executed
    · cases executed
  | claimFailed error =>
    cases executed
    exact .inl ⟨rfl, by simp⟩
  | noRow =>
    cases executed
    exact .inl ⟨rfl, by simp⟩
  | contended =>
    cases executed
    exact .inl ⟨rfl, by simp⟩
  | _ => cases executed

/-- A settlement is executed or not; the driver learns of a changed row only if
the statement changed one. -/
theorem exec_settle
    (executed : exec settings label before (.settle decision statement)
      choice = some (some answer, world)) :
    (requireDatabaseSettlementRow answer ≠ none ∧ (world = before ∨
        world = before.execute (some decision) statement)) ∨
    (answer = .affected 1 ∧ statement.rowsAffected before.table = 1 ∧
      world = { before.execute (some decision) statement with
        confirmed := (statement.token, decision) :: before.confirmed }) := by
  cases choice with
  | execution execution =>
    cases execution with
    | reported =>
      cases executed
      by_cases single : statement.rowsAffected before.table = 1
      · refine .inr ⟨by rw [single], single, ?_⟩
        simp [World.confirm, single, World.execute]
      · refine .inl ⟨?_, .inr ?_⟩
        · simp [requireDatabaseSettlementRow, single]
        · simp [World.confirm, single]
    | unread error =>
      cases executed
      exact .inl ⟨by simp [requireDatabaseSettlementRow], .inr rfl⟩
    | lost error =>
      cases executed
      exact .inl ⟨by simp [requireDatabaseSettlementRow], .inr rfl⟩
    | refused error =>
      cases executed
      exact .inl ⟨by simp [requireDatabaseSettlementRow], .inl rfl⟩
  | _ => cases executed

theorem exec_repair
    (executed : exec settings label before (.repair statement) choice = some (answer, world)) :
    world = before ∨ world = before.execute none statement := by
  cases choice with
  | execution execution =>
    cases execution <;> cases executed
    · exact .inr rfl
    · exact .inr rfl
    · exact .inr rfl
    · exact .inl rfl
  | _ => cases executed

/-- No operation waits. -/
theorem exec_answers : exec settings label before operation choice ≠ some (none, world) := by
  intro executed
  cases operation <;> cases choice <;> try cases executed
  · rename_i execution
    cases execution <;> cases executed
  · simp only [exec] at executed
    split at executed
    · split at executed <;> cases executed
    · cases executed
  · rename_i execution
    cases execution <;> cases executed
  · rename_i execution
    cases execution <;> cases executed

/-- The table and history after a statement that changed a row. -/
structure World.Executed (before : World) (decision : Option AttemptDecision)
    (statement : Statement) (row : Row) (after : World) : Prop where
  found : before.table.get statement.id = some row
  selected : statement.selects statement.id row = true
  own : after.table.get statement.id = statement.change row
  others : ∀ id, id ≠ statement.id -> after.table.get id = before.table.get id
  nextId : after.nextId = before.nextId
  claims : after.claims = before.claims
  changes : after.changes =
    { decision := decision, statement := statement, before := row } :: before.changes

theorem World.execute_cases (world : World) (decision : Option AttemptDecision) :
    world.execute decision statement = world ∧ statement.rowsAffected world.table = 0 ∨
    ∃ row, world.Executed decision statement row (world.execute decision statement) := by
  rcases statement.rowsAffected_cases world.table with
    ⟨none_affected, same⟩ | ⟨_, row, found, selected, own⟩
  · refine .inl ⟨?_, none_affected⟩
    have unselected := statement.rowsAffected_eq world.table
    rw [none_affected] at unselected
    have empty : statement.changeOf decision world.table = [] := by
      unfold Statement.changeOf
      split
      · rfl
      · rename_i row found
        rw [found] at unselected
        split
        · rename_i selected
          simp [selected] at unselected
        · rfl
    simp [World.execute, same, empty]
  · refine .inr ⟨row, found, selected, own, ?_, rfl, rfl, ?_⟩
    · exact fun id different => statement.get_apply_of_ne different
    · simp [World.execute, Statement.changeOf, found, selected]

/-- Quiet operations and statements that change nothing aside, a settlement of
one affected row changed that row. -/
theorem World.executed_of_affected (decision : Option AttemptDecision)
    (single : statement.rowsAffected before.table = 1) :
    ∃ row, before.Executed decision statement row (before.execute decision statement) := by
  rcases before.execute_cases decision with ⟨_, unaffected⟩ | executed
  · rw [single] at unaffected
    cases unaffected
  · exact executed

/-! ## Only claims put rows into processing -/

open Statement (Held)

/-- Every row that is processing afterwards was there before. -/
def Releases (before after : Table) : Prop :=
  ∀ id row, after.get id = some row -> row.state = .processing -> before.get id = some row

theorem Releases.refl (table : Table) : Releases table table :=
  fun _ _ found _ => found

theorem get_recoverStaleProcessing (settings : Settings) (now : Int) (table : Table) (id : Int) :
    (recoverStaleProcessing settings now table).get id = (table.get id).map fun row =>
        if row.stale settings now then row.recover now else row := by
  rw [recoverStaleProcessing, KeyedTable.get_update]
  cases table.get id with
  | none => rfl
  | some row =>
    simp only [Option.bind_some, Option.map_some]
    split <;> rfl

theorem releases_recover : Releases table (recoverStaleProcessing settings now table) := by
  intro id row found processing
  rw [get_recoverStaleProcessing] at found
  obtain ⟨earlier, present, same⟩ := Option.map_eq_some_iff.mp found
  split at same
  · subst same
    cases processing
  · rw [present, same]

theorem World.Executed.releases (executed : before.Executed decision statement row world) :
    Releases before.table world.table := by
  intro id later found processing
  by_cases same : id = statement.id
  · subst same
    rw [executed.own] at found
    exact absurd processing (Statement.state_of_change found)
  · rwa [executed.others id same] at found

theorem releases_admin (admin : Admin) : Releases table (admin.apply table) := by
  intro id row found processing
  rcases admin.get_apply_cases table id with same | gone | ⟨_, next, _, after, released, _⟩
  · rwa [same] at found
  · rw [gone] at found
    cases found
  · rw [after] at found
    cases found
    exact absurd processing released

theorem get_claimRow {id : Int} (found : table.get id = some row) (pending : row.state = .pending) :
    (claimRow id now token table).get other =
      if other = id then some (row.claim now token) else table.get other := by
  rw [claimRow, KeyedTable.get_update]
  by_cases same : other = id
  · subst same
    simp [found, pending]
  · cases table.get other with
    | none => simp [same]
    | some later => simp [same]

theorem Row.pending_of_claimable (claimable : row.claimable settings now = true) :
    row.state = .pending := by
  simp only [Row.claimable, Bool.and_eq_true, decide_eq_true_eq] at claimable
  exact claimable.1.2

theorem Row.processing_of_stale (stale : row.stale settings now = true) :
    row.state = .processing := by
  simp only [Row.stale, Bool.and_eq_true, decide_eq_true_eq] at stale
  exact stale.1

/-! ## The history of tokens -/

/-- The claim still holds its row. -/
def Claim.Current (claim : Claim) (world : World) : Prop :=
  ∃ row, world.table.get claim.job.id = some row ∧ Held claim.job.processingToken row

/-- A statement by which a claim settles or repairs its row. -/
def Statement.Of (statement : Statement) (job : DbJob) : Prop :=
  statement.id = job.id ∧ statement.token = job.processingToken

/-- A table from before the run: its ids are spent and no row of it carries a
token that a claim could generate. -/
structure Unclaimed (table : Table) (nextId : Int) : Prop where
  ids : ∀ id row, table.get id = some row -> 0 < id ∧ id < nextId
  positive : 0 < nextId
  tokens : ∀ id row token, table.get id = some row -> row.processingToken = some token ->
      databaseProcessingTokenValid token = false

/-- What the history of tokens says about the rows. -/
structure Fenced (world : World) : Prop where
  ids : ∀ id row, world.table.get id = some row -> 0 < id ∧ id < world.nextId
  positive : 0 < world.nextId
  distinct : (world.claims.map fun claim => claim.job.processingToken).Nodup
  valid : ∀ claim ∈ world.claims, databaseProcessingTokenValid claim.job.processingToken = true
  /-- A row under a generated token belongs to the claim of that token, which
  has not changed it. -/
  held : ∀ id row token, world.table.get id = some row -> Held token row ->
    databaseProcessingTokenValid token = true -> (∃ claim ∈ world.claims,
        claim.job.id = id ∧ claim.job.processingToken = token ∧
        claim.job.attempt = row.attempt ∧
        claim.job.maxRetry = row.maxRetry) ∧
      ∀ change ∈ world.changes, change.token ≠ token
  changed : ∀ change ∈ world.changes, Held change.token change.before ∧ ∃ claim ∈ world.claims,
    change.statement.Of claim.job ∧ claim.job.attempt = change.before.attempt ∧
    claim.job.maxRetry = change.before.maxRetry
  once : (world.changes.map Change.token).Nodup

theorem Unclaimed.fenced (unclaimed : Unclaimed table nextId) :
    Fenced (World.start table nextId) where
  ids := unclaimed.ids
  positive := unclaimed.positive
  distinct := .nil
  valid := by
    intro claim member
    cases member
  held := by
    intro id row token found held valid
    rw [unclaimed.tokens id row token found held.2] at valid
    cases valid
  changed := by
    intro change member
    cases member
  once := .nil

namespace Fenced

/-- Two claims with one token are one claim. -/
theorem claim_unique (fenced : Fenced world) (firstMade : first ∈ world.claims)
    (secondMade : second ∈ world.claims)
    (same : first.job.processingToken = second.job.processingToken) :
    first = second :=
  List.inj_on_of_nodup_map fenced.distinct firstMade secondMade same

variable (fenced : Fenced before)

include fenced

/-- A table that only releases rows stays fenced. -/
theorem release (releases : Releases before.table world.table)
    (ids : ∀ id row, world.table.get id = some row -> 0 < id ∧ id < world.nextId)
    (grows : before.nextId ≤ world.nextId) (claims : world.claims = before.claims)
    (changes : world.changes = before.changes) :
    Fenced world where
  ids := ids
  positive := Int.lt_of_lt_of_le fenced.positive grows
  distinct := claims ▸ fenced.distinct
  valid := claims ▸ fenced.valid
  held := by
    intro id row token found held valid
    rw [claims, changes]
    exact fenced.held id row token (releases id row found held.1) held valid
  changed := by
    rw [claims, changes]
    exact fenced.changed
  once := changes ▸ fenced.once

theorem sameRows (same : before.SameRows world) : Fenced world := by
  refine fenced.release ?_ ?_ (Int.le_of_eq same.nextId.symm) same.claims same.changes
  · rw [same.table]
    exact .refl _
  · rw [same.table, same.nextId]
    exact fenced.ids

theorem recover :
    Fenced { before with table := recoverStaleProcessing settings now before.table } := by
  refine fenced.release releases_recover ?_ (Int.le_refl _) rfl rfl
  intro id row found
  rw [get_recoverStaleProcessing] at found
  obtain ⟨earlier, present, _⟩ := Option.map_eq_some_iff.mp found
  exact fenced.ids id earlier present

theorem admin (admin : Admin) : Fenced { before with table := admin.apply before.table } := by
  refine fenced.release (releases_admin admin) ?_ (Int.le_refl _) rfl rfl
  intro id row found
  rcases admin.get_apply_cases before.table id with same | gone | ⟨earlier, _, present, _⟩
  · exact fenced.ids id row (same ▸ found)
  · rw [gone] at found
    cases found
  · exact fenced.ids id earlier present

theorem get_nextId : before.table.get before.nextId = none := by
  cases found : before.table.get before.nextId with
  | none => rfl
  | some row =>
    have bounded := (fenced.ids _ _ found).2
    omega

theorem releases_insert (pending : row.state = .pending) :
    Releases before.table (before.table.insert before.nextId row) := by
  intro id later found processing
  rw [KeyedTable.get_insert _ fenced.get_nextId] at found
  split at found
  · cases found
    rw [pending] at processing
    cases processing
  · exact found

theorem dispatch (pending : row.state = .pending) : Fenced { before with
      table := before.table.insert before.nextId row
      nextId := before.nextId + 1 } := by
  have positive := fenced.positive
  refine fenced.release (fenced.releases_insert pending) ?_ (by simp only; omega) rfl rfl
  intro id later found
  rw [KeyedTable.get_insert _ fenced.get_nextId] at found
  split at found
  · rename_i same
    simp only
    omega
  · have bounds := fenced.ids id later found
    simp only
    omega

theorem claim {id : Int} (found : before.table.get id = some row)
    (claimable : row.claimable settings now = true)
    (valid : databaseProcessingTokenValid token = true)
    (fresh : ∀ claim ∈ before.claims, claim.job.processingToken ≠ token) :
    Fenced (before.claim label id now row token) := by
  have pending := Row.pending_of_claimable claimable
  have unchanged : ∀ change ∈ before.changes, change.token ≠ token := by
    intro change member same
    obtain ⟨_, claim, made, of, _⟩ := fenced.changed change member
    exact fresh claim made (of.2 ▸ same)
  constructor
  case ids =>
    intro other later present
    simp only [World.claim] at present
    rw [get_claimRow found pending] at present
    split at present
    · rename_i same
      exact same ▸ fenced.ids id row found
    · exact fenced.ids other later present
  case positive => exact fenced.positive
  case distinct =>
    simp only [World.claim, List.map_cons, List.nodup_cons]
    refine ⟨?_, fenced.distinct⟩
    intro member
    obtain ⟨claim, made, same⟩ := List.mem_map.mp member
    exact fresh claim made same
  case valid =>
    intro claim member
    rcases List.mem_cons.mp member with rfl | earlier
    · exact valid
    · exact fenced.valid claim earlier
  case held =>
    intro other later candidate present held candidateValid
    simp only [World.claim] at present
    rw [get_claimRow found pending] at present
    split at present
    · rename_i same
      cases present
      have token_eq : token = candidate := Option.some.inj held.2
      subst token_eq
      exact ⟨⟨_, List.mem_cons_self, same.symm, rfl, rfl, rfl⟩, unchanged⟩
    · obtain ⟨⟨claim, made, rest⟩, untouched⟩ :=
        fenced.held other later candidate present held candidateValid
      exact ⟨⟨claim, List.mem_cons_of_mem _ made, rest⟩, untouched⟩
  case changed =>
    intro change member
    obtain ⟨held, claim, made, rest⟩ := fenced.changed change member
    exact ⟨held, claim, List.mem_cons_of_mem _ made, rest⟩
  case once => exact fenced.once

/-- The claim whose statement changed a row held that row, and no statement of
it had changed one before. -/
theorem executed_claim (executed : before.Executed decision statement row world)
    (claimed : ∃ claim ∈ before.claims, statement.Of claim.job) :
    (∃ claim ∈ before.claims, statement.Of claim.job ∧
      claim.job.attempt = row.attempt ∧ claim.job.maxRetry = row.maxRetry) ∧
    ∀ change ∈ before.changes, change.token ≠ statement.token := by
  obtain ⟨claim, made, of⟩ := claimed
  have held := (Statement.held_of_selects executed.selected).2
  have valid := fenced.valid claim made
  rw [← of.2] at valid
  obtain ⟨⟨owner, owned, _, token_eq, attempt_eq, retry_eq⟩, untouched⟩ :=
    fenced.held _ _ _ executed.found held valid
  cases fenced.claim_unique made owned (of.2.symm.trans token_eq.symm)
  exact ⟨⟨claim, made, of, attempt_eq, retry_eq⟩, untouched⟩

theorem executed (executed : before.Executed decision statement row world)
    (claimed : ∃ claim ∈ before.claims, statement.Of claim.job) :
    Fenced world := by
  have held := (Statement.held_of_selects executed.selected).2
  obtain ⟨owner, untouched⟩ := fenced.executed_claim executed claimed
  constructor
  case ids =>
    intro id later found
    rw [executed.nextId]
    by_cases same : id = statement.id
    · exact same ▸ fenced.ids _ _ executed.found
    · exact fenced.ids id later (executed.others id same ▸ found)
  case positive => exact executed.nextId ▸ fenced.positive
  case distinct => exact executed.claims ▸ fenced.distinct
  case valid => exact executed.claims ▸ fenced.valid
  case held =>
    intro id later token found laterHeld valid
    have different : id ≠ statement.id := by
      rintro rfl
      rw [executed.own] at found
      exact Statement.state_of_change found laterHeld.1
    rw [executed.others id different] at found
    obtain ⟨⟨claim, made, id_eq, token_eq, rest⟩, unchanged⟩ :=
      fenced.held id later token found laterHeld valid
    rw [executed.claims, executed.changes]
    refine ⟨⟨claim, made, id_eq, token_eq, rest⟩, ?_⟩
    intro change member
    rcases List.mem_cons.mp member with rfl | earlier
    · intro same
      obtain ⟨other, otherMade, of, _⟩ := owner
      have one := fenced.claim_unique otherMade made (of.2.symm.trans (same.trans token_eq.symm))
      exact different (id_eq.symm.trans (one ▸ of.1.symm))
    · exact unchanged change earlier
  case changed =>
    rw [executed.claims, executed.changes]
    intro change member
    rcases List.mem_cons.mp member with rfl | earlier
    · exact ⟨held, owner⟩
    · exact fenced.changed change earlier
  case once =>
    rw [executed.changes, List.map_cons, List.nodup_cons]
    refine ⟨?_, fenced.once⟩
    intro member
    obtain ⟨change, earlier, same⟩ := List.mem_map.mp member
    exact untouched change earlier same

end Fenced

/-! ## The invariant along runs -/

/-- The job a worker holds in a phase. -/
def Phase.job? : Phase -> Option DbJob
  | .polling => none
  | .claimed job => some job
  | .called job => some job
  | .running job _ => some job
  | .settling job _ _ => some job
  | .confirmed job _ => some job
  | .published job _ => some job
  | .failing job => some job
  | .ended _ => none

/-- The job without what its handler reported, as it was claimed. -/
def DbJob.asClaimed (job : DbJob) : DbJob :=
  { job with applicationStateCommitted := false }

/-- The worker made the claim whose job it holds. -/
def World.Claimed (world : World) (label : Nat) (job : DbJob) : Prop :=
  { label := label, job := job.asClaimed : Claim } ∈ world.claims

/-- The rows are fenced and every worker holds the job of a claim of its
own. -/
def claimsFenced : Assertions World Phase where
  shared := fun _ world => Fenced world
  thread := fun label phase world =>
    ∀ job, phase.job? = some job -> world.Claimed label job

theorem settles_of (settles : Settles job result decision statement) : statement.Of job := by
  cases settles with
  | done => exact ⟨rfl, rfl⟩
  | failed classified =>
    unfold failureStatement
    split <;> exact ⟨rfl, rfl⟩

theorem repairs_of (repairs : Repairs job statement) : statement.Of job := by
  cases repairs
  exact ⟨rfl, rfl⟩

/-- The statements by which a worker settles or repairs the row of its job. -/
inductive Writes (job : DbJob) : Option AttemptDecision -> Statement -> Prop
  | settles
      {result : Option GoError} {decision : AttemptDecision}
      {statement : Statement} (settles : Settles job result decision statement) :
      Writes job (some decision) statement
  | repairs {statement : Statement} (repairs : Repairs job statement) : Writes job none statement

theorem Writes.of (writes : Writes job decision statement) : statement.Of job := by
  cases writes with
  | settles settles => exact settles_of settles
  | repairs repairs => exact repairs_of repairs

theorem World.Claimed.exists_of {statement : Statement} (claimed : world.Claimed label job)
    (of : statement.Of job) :
    ∃ claim ∈ world.claims, statement.Of claim.job :=
  ⟨_, claimed, of⟩

/-- The job of the worker whose statement changed a row is the one that was
claimed with that row, and the change is its first. -/
theorem Fenced.executed_job (fenced : Fenced before) (claimed : before.Claimed label job)
    (of : statement.Of job) (executed : before.Executed decision statement row world) :
    job.attempt = row.attempt ∧ job.maxRetry = row.maxRetry ∧
      ∀ change ∈ before.changes, change.token ≠ job.processingToken := by
  obtain ⟨⟨claim, made, claimOf, attempt, maxRetry⟩, untouched⟩ :=
    fenced.executed_claim executed (claimed.exists_of of)
  cases fenced.claim_unique claimed made (of.2.symm.trans claimOf.2)
  exact ⟨attempt, maxRetry, of.2 ▸ untouched⟩

/-- A worker gets its job from a claim and keeps it. -/
theorem WorkerMoves.retains (moved : WorkerMoves phase operation answer after)
    (holds : after.job? = some job) :
    (phase = .polling ∧ after = .claimed job) ∨
    ∃ earlier, phase.job? = some earlier ∧ earlier.asClaimed = job.asClaimed := by
  cases moved with
  | claims now claimed =>
    cases holds
    exact .inl ⟨rfl, rfl⟩
  | now phase time => exact .inr ⟨job, holds, rfl⟩
  | confirms handled settles => cases handled <;> cases holds <;> exact .inr ⟨_, rfl, rfl⟩
  | _ => cases holds <;> exact .inr ⟨_, rfl, rfl⟩

/-- A worker settles the job it holds with the result it has. -/
theorem WorkerMoves.settle_inv
    (moved : WorkerMoves phase (.settle decision statement) answer after) :
    ∃ job result handled, phase = .settling job result handled ∧
      Settles job result decision statement := by
  cases moved with
  | settles handled settles _ => exact ⟨_, _, handled, rfl, settles⟩
  | confirms handled settles => exact ⟨_, _, handled, rfl, settles⟩

theorem WorkerMoves.repair_inv (moved : WorkerMoves phase (.repair statement) answer after) :
    ∃ job result handled, phase = .settling job result handled ∧ Repairs job statement := by
  cases moved with
  | repairs result handled answer repairs => exact ⟨_, result, handled, rfl, repairs⟩

/-- What an operation of a worker does to the rows. -/
inductive Effect (settings : Settings) (label : Nat) (before : World) : Phase -> World -> Prop
  | same {phase : Phase} {world : World} (same : before.SameRows world) :
      Effect settings label before phase world
  | recover {phase : Phase} (now : Int) :
      Effect settings label before phase { before with
        table := recoverStaleProcessing settings now before.table }
  | claim
      {phase : Phase} {id now : Int} {row : Row} {token : String}
      (found : before.table.get id = some row)
      (claimable : row.claimable settings now = true)
      (valid : databaseProcessingTokenValid token = true)
      (fresh : ∀ claim ∈ before.claims, claim.job.processingToken ≠ token) :
      Effect settings label before phase (before.claim label id now row token)
  | write
      {job : DbJob} {result : Option GoError} {handled : Bool}
      {decision : Option AttemptDecision} {statement : Statement} {row : Row}
      {world : World} (writes : Writes job decision statement)
      (executed : before.Executed decision statement row world)
      (silent : world.reported = before.reported) :
      Effect settings label before (.settling job result handled) world

theorem Effect.of_execute (writes : Writes job decision statement) :
    Effect settings label before (.settling job result handled)
      (before.execute decision statement) := by
  rcases before.execute_cases decision with ⟨same, _⟩ | ⟨row, executed⟩
  · rw [same]
    exact .same ⟨rfl, rfl, rfl, rfl⟩
  · exact .write writes executed rfl

theorem effect_operation (moved : WorkerMoves phase operation answer after)
    (executed : exec settings label before operation choice = some (some answer, world)) :
    Effect settings label before phase world := by
  by_cases quiet : operation.quiet = true
  · exact .same (exec_quiet quiet executed)
  · cases operation <;> try exact absurd rfl quiet
    case recoverStaleProcessing now =>
      rcases exec_recover executed with rfl | rfl
      · exact .same ⟨rfl, rfl, rfl, rfl⟩
      · exact .recover now
    case claim now =>
      rcases exec_claim executed with
        ⟨rfl, _⟩ | ⟨id, row, token, found, claimable, valid, fresh, rfl, _⟩
      · exact .same ⟨rfl, rfl, rfl, rfl⟩
      · exact .claim found claimable valid fresh
    case settle decision statement =>
      obtain ⟨job, result, handled, rfl, settles⟩ := moved.settle_inv
      rcases exec_settle executed with ⟨_, rfl | rfl⟩ | ⟨_, single, rfl⟩
      · exact .same ⟨rfl, rfl, rfl, rfl⟩
      · exact .of_execute (.settles settles)
      · obtain ⟨row, changed⟩ := World.executed_of_affected (some decision) single
        exact .write (.settles settles) ⟨changed.found, changed.selected,
          changed.own, changed.others, rfl, rfl, changed.changes⟩ rfl
    case repair statement =>
      obtain ⟨job, result, handled, rfl, repairs⟩ := moved.repair_inv
      rcases exec_repair executed with rfl | rfl
      · exact .same ⟨rfl, rfl, rfl, rfl⟩
      · exact .of_execute (.repairs repairs)

/-- Every operation of a worker keeps the rows fenced. -/
theorem Effect.fenced (effect : Effect settings label before phase world) (fenced : Fenced before)
    (known : claimsFenced.thread label phase before) : Fenced world := by
  cases effect with
  | same same => exact fenced.sameRows same
  | recover now => exact fenced.recover
  | claim found claimable valid fresh => exact fenced.claim found claimable valid fresh
  | write writes executed => exact fenced.executed executed ((known _ rfl).exists_of writes.of)

/-- Claims stay made, and one that lost its row never gets it back. -/
def Supersedes (before after : World) : Prop :=
  before.claims ⊆ after.claims ∧
  ∀ claim ∈ before.claims, claim.Current after -> claim.Current before

theorem Supersedes.of_releases (subset : before.claims ⊆ world.claims)
    (releases : Releases before.table world.table) :
    Supersedes before world :=
  ⟨subset, fun _ _ ⟨row, found, held⟩ =>
    ⟨row, releases _ _ found held.1, held⟩⟩

theorem World.SameRows.supersedes (same : before.SameRows world) : Supersedes before world :=
  .of_releases (fun _ => same.claims ▸ id) (same.table ▸ .refl _)

theorem supersedes_claim {id : Int} (found : before.table.get id = some row)
    (claimable : row.claimable settings now = true)
    (fresh : ∀ claim ∈ before.claims, claim.job.processingToken ≠ token) :
    Supersedes before (before.claim label id now row token) := by
  refine ⟨List.subset_cons_self _ _, ?_⟩
  rintro claim made ⟨later, present, held⟩
  simp only [World.claim] at present
  rw [get_claimRow found (Row.pending_of_claimable claimable)] at present
  split at present
  · cases present
    exact absurd (Option.some.inj held.2).symm (fresh claim made)
  · exact ⟨later, present, held⟩

/-- Every operation only takes rows away from the claims that were made. -/
theorem Effect.supersedes (effect : Effect settings label before phase world) :
    Supersedes before world := by
  cases effect with
  | same same => exact same.supersedes
  | recover now => exact .of_releases (fun _ => id) releases_recover
  | claim found claimable valid fresh => exact supersedes_claim found claimable fresh
  | write writes executed => exact .of_releases (fun _ => executed.claims ▸ id) executed.releases

theorem claimsFenced_frame (subset : before.claims ⊆ world.claims) :
    claimsFenced.Frame bound moving before world :=
  fun _ _ _ _ known job holds => subset (known job holds)

/-- Dispatch and administration keep the rows fenced and the claims. -/
theorem fenced_external (fenced : Fenced before)
    (moved : external settings label before move = some (world, started)) :
    Fenced world ∧ world.claims = before.claims := by
  cases move <;> cases moved
  · exact ⟨fenced.dispatch rfl, rfl⟩
  · exact ⟨fenced.admin _, rfl⟩
  · exact ⟨fenced, rfl⟩

/-- The worker that is handed a job made the claim. -/
theorem claimed_of_moved (moved : WorkerMoves .polling operation answer (.claimed job))
    (executed : exec settings label before operation choice = some (some answer, world)) :
    world.Claimed label job := by
  cases moved with
  | claims now =>
    rcases exec_claim executed with ⟨_, unclaimed⟩ | ⟨id, row, token, _, _, _, _, rfl, made⟩
    · exact absurd rfl (unclaimed job)
    · cases made job rfl
      exact List.mem_cons_self

theorem claimsFenced_kept : claimsFenced.Kept (queue settings) .always workerProtocol where
  operation := by
    intro bound label phase after before world operation answer choice _
      fenced known moved executed _
    have effect := effect_operation moved executed
    have subset := effect.supersedes.1
    refine ⟨effect.fenced fenced known, ?_, claimsFenced_frame subset⟩
    intro job holds
    rcases moved.retains holds with ⟨rfl, rfl⟩ | ⟨earlier, held, same⟩
    · exact claimed_of_moved moved executed
    · rw [World.Claimed, ← same]
      exact subset (known earlier held)
  blocked := fun _ _ executed => absurd executed exec_answers
  finished := by
    intro bound label phase before world result _ fenced _ _ settled
    cases settled
    exact ⟨fenced.sameRows ⟨rfl, rfl, rfl, rfl⟩, claimsFenced_frame fun _ => id⟩
  idle := by
    intro bound before world move fenced moved _
    obtain ⟨kept, same⟩ := @fenced_external settings bound _ _ _ _ fenced moved
    exact ⟨kept, claimsFenced_frame fun _ => same ▸ id⟩
  started := by
    intro bound before world move program phase fenced moved _ entered
    obtain ⟨kept, same⟩ := @fenced_external settings bound _ _ _ _ fenced moved
    cases entered
    exact ⟨kept, by rintro job ⟨⟩, claimsFenced_frame fun _ => same ▸ id⟩

/-- Fenced rows stay fenced and claims only lose their rows. -/
def KeepsFences (before after : World) : Prop :=
  Fenced before -> Fenced after ∧ Supersedes before after

theorem claimsFenced_relates :
    claimsFenced.Relates (queue settings) .always workerProtocol KeepsFences where
  operation := fun _ _ known moved executed _ fenced =>
    ⟨(effect_operation moved executed).fenced fenced known,
      (effect_operation moved executed).supersedes⟩
  blocked := fun executed => absurd executed exec_answers
  finished := by
    intro label before world result settled fenced
    cases settled
    exact ⟨fenced.sameRows ⟨rfl, rfl, rfl, rfl⟩, .of_releases (fun _ => id) (.refl _)⟩
  external := by
    intro bound before world move started moved _ fenced
    refine ⟨(@fenced_external settings bound _ _ _ _ fenced moved).1, ?_⟩
    cases move <;> cases moved
    · exact .of_releases (fun _ => id) (fenced.releases_insert rfl)
    · exact .of_releases (fun _ => id) (releases_admin _)
    · exact .of_releases (fun _ => id) (.refl _)

section Runs

/-- Rows are fenced in every configuration that a run reaches. -/
theorem hold_claimsFenced (unclaimed : Unclaimed table nextId)
    (reached : (queue settings).Reaches .always (.initial (.start table nextId)) config) :
    claimsFenced.Hold workerProtocol config :=
  (Assertions.Hold.initial unclaimed.fenced).reaches governs claimsFenced_kept reached

theorem supersedes_of_reaches (unclaimed : Unclaimed table nextId)
    (reached : (queue settings).Reaches .always (.initial (.start table nextId)) config)
    (continued : (queue settings).Reaches .always config later) :
    Supersedes config.world later.world := by
  have hold := hold_claimsFenced unclaimed reached
  refine (hold.relates governs claimsFenced_kept claimsFenced_relates ?_ ?_ continued hold.shared).2
  · exact fun world fenced =>
      ⟨fenced, .of_releases (fun _ => id) (.refl _)⟩
  · intro first second third early late fenced
    obtain ⟨middle, subset, lost⟩ := early fenced
    obtain ⟨last, lateSubset, lateLost⟩ := late middle
    exact ⟨last, fun _ member => lateSubset (subset member), fun claim made current =>
        lost claim made (lateLost claim (subset made) current)⟩

/-- The statements of a claim change the table only while the claim holds its
row. -/
theorem current_of_apply_ne {claim : Claim} {statement : Statement} (of : statement.Of claim.job)
    (changes : statement.apply world.table ≠ world.table) :
    claim.Current world := by
  rcases statement.rowsAffected_cases world.table with ⟨_, same⟩ | ⟨_, row, found, selected, _⟩
  · exact absurd same changes
  · refine ⟨row, of.1 ▸ found, ?_⟩
    exact of.2 ▸ (Statement.held_of_selects selected).2

/-- In every interleaving, a settlement or repair of a claim changes the table
only while the row is processing under the token of the claim; a claim changes
rows at most once; at most one claim of a row is current; and a claim that lost
its row never changes the table again. -/
theorem claims_fenced (unclaimed : Unclaimed table nextId)
    (reached : (queue settings).Reaches .always (.initial (.start table nextId)) config) :
    (∀ claim ∈ config.world.claims, ∀ statement : Statement, statement.Of claim.job ->
      statement.apply config.world.table ≠ config.world.table -> claim.Current config.world) ∧
    (∀ change ∈ config.world.changes, Held change.token change.before ∧
      ∃ claim ∈ config.world.claims, change.statement.Of claim.job) ∧
    (config.world.changes.map Change.token).Nodup ∧
    (∀ first ∈ config.world.claims, ∀ second ∈ config.world.claims,
      first.job.id = second.job.id -> first.Current config.world ->
        second.Current config.world -> first = second) ∧
    ∀ later, (queue settings).Reaches .always config later -> ∀ claim ∈ config.world.claims,
      ¬claim.Current config.world -> ¬claim.Current later.world ∧ ∀ statement : Statement,
      statement.Of claim.job -> statement.apply later.world.table = later.world.table := by
  have fenced := (hold_claimsFenced unclaimed reached).shared
  refine ⟨fun claim _ statement of => current_of_apply_ne of, ?_, fenced.once, ?_, ?_⟩
  · intro change member
    obtain ⟨held, claim, made, of, _⟩ := fenced.changed change member
    exact ⟨held, claim, made, of⟩
  · rintro first firstMade second secondMade same ⟨row, found, held⟩ ⟨other, otherFound, otherHeld⟩
    rw [same, otherFound] at found
    cases found
    exact fenced.claim_unique firstMade secondMade (Option.some.inj (held.2.symm.trans otherHeld.2))
  · intro later continued claim made lost
    have superseded := supersedes_of_reaches unclaimed reached continued
    have still : ¬claim.Current later.world := fun current => lost (superseded.2 claim made current)
    refine ⟨still, ?_⟩
    intro statement of
    by_contra changes
    exact still (current_of_apply_ne of changes)

end Runs

/-- A SQLite queue with default timing. -/
def sqliteSettings : Settings :=
  { defaultQueue := "default"
    optimisticClaimLoop := true
    processingRecoveryGrace := 2000
    processingLeaseNoTimeout := 300000
    pollInterval := 50 }

/-- Let a worker take its next steps. -/
def perform (label : Nat) (choices : List Choice) : List (Action Choice Move) :=
  choices.map (.run label)

/-- A job of type `email` with one retry. -/
def dispatchEmail : Move := .dispatch "default" "email" none 1 0 0

theorem unclaimed_empty : Unclaimed .empty 1 where
  ids := by
    intro id row found
    cases found
  positive := by decide
  tokens := by
    intro id row token found
    cases found

/-- A worker outlives its lease, a second one claims the row, and the first
tries to settle it. -/
def leaseExpires : List (Action Choice Move) :=
  [.external dispatchEmail, .external .poll] ++
  perform 0 [.time 0, .execution .reported,
    .claim 1 (List.replicate 16 0) none, .registered true, .reports true] ++
  [.external .poll] ++
  perform 1 [.time 400000, .execution .reported, .unit, .claim 1 (List.replicate 16 1) none] ++
  perform 0 [.result none, .execution .reported]

/-- The second claim is the one that holds the row, and the settlement of the
first did nothing. -/
theorem claims_fenced_lease_expires :
    ∃ config, (queue sqliteSettings).Reaches .always (.initial (.start .empty 1)) config ∧
      (config.world.claims.length = 2 ∧ config.world.changes = []) ∧
      ∀ first ∈ config.world.claims, ∀ second ∈ config.world.claims,
        first.job.id = second.job.id -> first.Current config.world ->
          second.Current config.world -> first = second := by
  obtain ⟨config, reached, passed⟩ :
      ∃ config, (queue sqliteSettings).Reaches .always (.initial (.start .empty 1)) config ∧
        config.world.claims.length = 2 ∧ config.world.changes = [] :=
    Machine.Reaches.of_decide leaseExpires (by decide +kernel)
  exact ⟨config, reached, passed, (claims_fenced unclaimed_empty reached).2.2.2.1⟩

end JobQueue.SqlQueue
