import JobQueue.SqlQueue.Lineage

/-!
# Recovery provenance is kept

Without administration, a claim learns of every generation before it through
the link that its predecessor at the same attempt left. A predecessor that was
taken for lost leaves its own generation; one that settled or repaired its row
leaves its own generation if it had reported its application state, and the
link it inherited otherwise. Following the links back, a claim is linked to the
latest generation that reported.
-/

namespace JobQueue.SqlQueue

open Interleaving
open Statement (Held)

variable {before world : World}

/-! ## What a claim leaves to the next -/

/-- The claim is one of a row at an attempt. -/
def Claim.isFor (id attempt : Int) (claim : Claim) : Bool :=
  claim.job.id = id && claim.job.attempt = attempt

theorem Claim.isFor_iff {id : Int} {claim : Claim} :
    claim.isFor id attempt = true ↔ claim.job.id = id ∧ claim.job.attempt = attempt := by
  simp [Claim.isFor]

/-- A settlement or repair of the generation changed its row. -/
def World.Changed (world : World) (token : String) : Prop :=
  ∃ change ∈ world.changes, change.token = token

/-- The link that a claim leaves to the next claim at its attempt. -/
def World.Leaves (world : World) (claim : Claim) (link : String) : Prop :=
  (¬world.Changed claim.job.processingToken ∧ link = claim.job.processingToken) ∨
  (world.Changed claim.job.processingToken ∧ ((claim.job.processingToken ∈ world.reported ∧
        link = claim.job.processingToken) ∨
      (claim.job.processingToken ∉ world.reported ∧ link = claim.job.recoveryToken)))

theorem World.Leaves.keep {claim : Claim} (leaves : before.Leaves claim link)
    (changed : world.Changed claim.job.processingToken ↔ before.Changed claim.job.processingToken)
    (reported : before.Changed claim.job.processingToken ->
      (claim.job.processingToken ∈ world.reported ↔ claim.job.processingToken ∈ before.reported)) :
    world.Leaves claim link := by
  rcases leaves with ⟨unchanged, own⟩ | ⟨settled, rest⟩
  · exact .inl ⟨fun later => unchanged (changed.mp later), own⟩
  · refine .inr ⟨changed.mpr settled, ?_⟩
    rwa [reported settled]

variable {phase : Phase}

theorem World.Executed.changed_iff (executed : before.Executed decision statement row world)
    (other : statement.token ≠ token) :
    world.Changed token ↔ before.Changed token := by
  simp only [World.Changed, executed.changes, List.mem_cons, exists_eq_or_imp]
  exact ⟨fun either => either.resolve_left other, .inr⟩

theorem World.Executed.changed (executed : before.Executed decision statement row world) :
    world.Changed statement.token := by
  refine ⟨{ decision := decision, statement := statement, before := row }, ?_, rfl⟩
  rw [executed.changes]
  exact List.mem_cons_self

/-- Links are passed on from claim to claim. -/
structure Succession (world : World) : Prop where
  pending : ∀ id row claim, world.table.get id = some row -> row.state = .pending ->
    world.claims.find? (Claim.isFor id row.attempt) = some claim -> world.Leaves claim row.link
  processing : ∀ id row claim, world.table.get id = some row -> row.state = .processing ->
    world.claims.find? (Claim.isFor id row.attempt) = some claim ->
    Held claim.job.processingToken row
  inherited : ∀ newer claim older earlier, world.claims = newer ++ claim :: older ->
    older.find? (Claim.isFor claim.job.id claim.job.attempt) = some earlier ->
    world.Leaves earlier claim.job.recoveryToken ∧ ¬earlier.Current world
  attempts : ∀ claim ∈ world.claims, ∀ row, world.table.get claim.job.id = some row ->
      claim.job.attempt ≤ row.attempt
  ids : ∀ claim ∈ world.claims, claim.job.id < world.nextId
  reported : ∀ token ∈ world.reported, ∃ claim ∈ world.claims, claim.job.processingToken = token

theorem succession_start : Succession (World.start table nextId) where
  pending := by
    intro id row claim _ _ found
    cases found
  processing := by
    intro id row claim _ _ found
    cases found
  inherited := by
    intro newer claim older earlier split
    simp [World.start] at split
  attempts := by
    intro claim member
    cases member
  ids := by
    intro claim member
    cases member
  reported := by
    intro token member
    cases member

/-- The claim found at an attempt is one of the row at that attempt. -/
theorem find_isFor {claims : List Claim} {id : Int}
    (found : claims.find? (Claim.isFor id attempt) = some claim) :
    claim ∈ claims ∧ claim.job.id = id ∧ claim.job.attempt = attempt :=
  ⟨List.mem_of_find?_eq_some found, Claim.isFor_iff.mp (List.find?_some found)⟩

namespace Succession

variable (succession : Succession before)
include succession

/-- Claims and changes stay as they are, and reports of generations that have
changed their row too. -/
theorem keep (supersedes : Supersedes before world) (claims : world.claims = before.claims)
    (changes : world.changes = before.changes)
    (grows : before.nextId ≤ world.nextId)
    (silent : ∀ token, before.Changed token -> (token ∈ world.reported ↔ token ∈ before.reported))
    (known : ∀ token ∈ world.reported, ∃ claim ∈ before.claims, claim.job.processingToken = token)
    (pending : ∀ id row claim, world.table.get id = some row -> row.state = .pending ->
      before.claims.find? (Claim.isFor id row.attempt) = some claim -> before.Leaves claim row.link)
    (processing : ∀ id row claim, world.table.get id = some row -> row.state = .processing ->
      before.claims.find? (Claim.isFor id row.attempt) = some claim ->
        Held claim.job.processingToken row)
    (attempts : ∀ claim ∈ before.claims, ∀ row,
      world.table.get claim.job.id = some row -> claim.job.attempt ≤ row.attempt) :
    Succession world := by
  have changed : ∀ token, world.Changed token ↔ before.Changed token := by
    intro token
    rw [World.Changed, changes, World.Changed]
  constructor
  case pending =>
    intro id row claim found state first
    rw [claims] at first
    exact (pending id row claim found state first).keep (changed _) (silent _)
  case processing =>
    rw [claims]
    exact processing
  case inherited =>
    intro newer claim older earlier split first
    rw [claims] at split
    obtain ⟨leaves, lost⟩ := succession.inherited newer claim older earlier split first
    refine ⟨leaves.keep (changed _) (silent _), ?_⟩
    have made := subset_of_split split (find_isFor first).1
    exact fun current => lost (supersedes.2 earlier made current)
  case attempts => rwa [claims]
  case ids =>
    rw [claims]
    exact fun claim made =>
      Int.lt_of_lt_of_le (succession.ids claim made) grows
  case reported => rwa [claims]

theorem sameRows (same : before.SameRows world)
    (silent : ∀ token, before.Changed token -> (token ∈ world.reported ↔ token ∈ before.reported))
    (known : ∀ token ∈ world.reported, ∃ claim ∈ before.claims, claim.job.processingToken = token) :
    Succession world := by
  refine succession.keep same.supersedes same.claims same.changes
    (Int.le_of_eq same.nextId.symm) silent known ?_ ?_ ?_
  · rw [same.table]
    exact succession.pending
  · rw [same.table]
    exact succession.processing
  · rw [same.table]
    exact succession.attempts

theorem recover (fenced : Fenced before) (now : Int) :
    Succession { before with table := recoverStaleProcessing settings now before.table } := by
  refine succession.keep (.of_releases (List.Subset.refl _) releases_recover) rfl rfl
    (Int.le_refl _) (fun _ _ => Iff.rfl) succession.reported ?_ ?_ ?_
  · intro id row claim found pending first
    simp only [get_recoverStaleProcessing] at found
    obtain ⟨earlier, present, same⟩ := Option.map_eq_some_iff.mp found
    split at same
    · -- The lost claim is the latest one, and it never changed the row.
      rename_i stale
      subst same
      have processing := Row.processing_of_stale stale
      have held := succession.processing id earlier claim present processing first
      have valid := fenced.valid claim (find_isFor first).1
      refine .inl ⟨?_, ?_⟩
      · rintro ⟨change, member, token_eq⟩
        exact (fenced.held id earlier _ present held valid).2 change member token_eq
      · rw [Row.link_recover, Row.link, held.2, databaseRecoveryProof_of_valid valid]
    · subst same
      exact succession.pending id earlier claim present pending first
  · intro id row claim found processing first
    exact succession.processing id row claim
      (releases_recover id row found processing) processing first
  · intro claim made row found
    cases present : before.table.get claim.job.id with
    | none =>
      simp only [get_recoverStaleProcessing, present] at found
      cases found
    | some earlier =>
      rw [(attempt_recover present found).1]
      exact succession.attempts claim made earlier present

theorem dispatch (fenced : Fenced before) (pending : row.state = .pending) :
    Succession { before with
      table := before.table.insert before.nextId row
      nextId := before.nextId + 1 } := by
  have new : ∀ claim ∈ before.claims, claim.job.id ≠ before.nextId := by
    intro claim made same
    have bounded := succession.ids claim made
    omega
  refine succession.keep (.of_releases (List.Subset.refl _) (fenced.releases_insert pending)) rfl
    rfl (by simp only; omega) (fun _ _ => Iff.rfl) succession.reported ?_ ?_ ?_
  · intro id later claim found state first
    obtain ⟨made, rfl, _⟩ := find_isFor first
    rw [KeyedTable.get_insert _ fenced.get_nextId, if_neg (new claim made)] at found
    exact succession.pending _ later claim found state first
  · intro id later claim found state first
    obtain ⟨made, rfl, _⟩ := find_isFor first
    rw [KeyedTable.get_insert _ fenced.get_nextId, if_neg (new claim made)] at found
    exact succession.processing _ later claim found state first
  · intro claim made later found
    rw [KeyedTable.get_insert _ fenced.get_nextId, if_neg (new claim made)] at found
    exact succession.attempts claim made later found

theorem claim (fenced : Fenced before) {id : Int} (found : before.table.get id = some row)
    (claimable : row.claimable settings now = true)
    (fresh : ∀ claim ∈ before.claims, claim.job.processingToken ≠ token) :
    Succession (before.claim label id now row token) := by
  have pending := Row.pending_of_claimable claimable
  have supersedes : Supersedes before (before.claim label id now row token) :=
    supersedes_claim found claimable fresh
  have elsewhere : ∀ other attempt, other ≠ id ->
      (before.claim label id now row token).claims.find? (Claim.isFor other attempt) =
        before.claims.find? (Claim.isFor other attempt) := by
    intro other attempt different
    have skipped : ¬Claim.isFor other attempt
        { label := label, job := claimedJob id row token } = true := by
      rw [Claim.isFor_iff]
      exact fun same => different same.1.symm
    exact List.find?_cons_of_neg skipped
  constructor
  case pending =>
    intro other later claim present state first
    simp only [World.claim] at present
    rw [get_claimRow found pending] at present
    split at present
    · cases present
      cases state
    · rename_i different
      rw [elsewhere _ _ different] at first
      exact succession.pending other later claim present state first
  case processing =>
    intro other later claim present state first
    simp only [World.claim] at present
    rw [get_claimRow found pending] at present
    split at present
    · rename_i same
      cases present
      have newest : Claim.isFor other row.attempt
          { label := label, job := claimedJob id row token } = true :=
        Claim.isFor_iff.mpr ⟨same.symm, rfl⟩
      have first : List.find? (Claim.isFor other row.attempt)
          ({ label := label, job := claimedJob id row token } ::
            before.claims) = some claim := first
      rw [List.find?_cons_of_pos newest] at first
      cases first
      exact ⟨rfl, rfl⟩
    · rename_i different
      rw [elsewhere _ _ different] at first
      exact succession.processing other later claim present state first
  case inherited =>
    intro newer claim older earlier split first
    rcases List.cons_eq_append_iff.mp split with ⟨_, same⟩ | ⟨rest, _, same⟩
    · cases same
      refine ⟨succession.pending id row earlier found pending first, ?_⟩
      obtain ⟨made, id_eq, _⟩ := find_isFor first
      rintro ⟨later, present, held⟩
      obtain ⟨current, currentFound, currentHeld⟩ :=
        supersedes.2 earlier made ⟨later, present, held⟩
      have same : row = current := by
        rw [id_eq] at currentFound
        exact Option.some.inj (found.symm.trans currentFound)
      rw [← same] at currentHeld
      rw [currentHeld.1] at pending
      cases pending
    · obtain ⟨leaves, lost⟩ := succession.inherited rest claim older earlier same first
      refine ⟨leaves, ?_⟩
      have made := subset_of_split same (find_isFor first).1
      exact fun current => lost (supersedes.2 earlier made current)
  case attempts =>
    intro claim made later present
    simp only [World.claim] at present
    rw [get_claimRow found pending] at present
    split at present
    · rename_i same
      cases present
      rcases List.mem_cons.mp made with rfl | earlier
      · exact Int.le_refl _
      · exact succession.attempts claim earlier row (same ▸ found)
    · rename_i different
      rcases List.mem_cons.mp made with rfl | earlier
      · exact absurd rfl different
      · exact succession.attempts claim earlier later present
  case ids =>
    intro claim made
    rcases List.mem_cons.mp made with rfl | earlier
    · exact (fenced.ids id row found).2
    · exact succession.ids claim earlier
  case reported =>
    intro token member
    obtain ⟨claim, made, same⟩ := succession.reported token member
    exact ⟨claim, List.mem_cons_of_mem _ made, same⟩

/-- A statement of a claim leaves a pending row at the next attempt, or at the
same one with the link that the job bequeaths. -/
theorem executed (fenced : Fenced before) (linked : Linked before)
    (claimed : before.Claimed label job) (writes : Writes job decision statement)
    (executed : before.Executed decision statement row world)
    (silent : world.reported = before.reported)
    (reports : job.processingToken ∈ before.reported ↔ job.applicationStateCommitted = true) :
    Succession world := by
  have of := writes.of
  have leaves : ∀ next, statement.change row = some next ->
      (next.attempt = row.attempt ∧ next.link = job.bequest) ∨ next.attempt = row.attempt + 1 := by
    intro next changed
    cases (writes.continues fenced linked claimed executed changed).2 with
    | keeps state attempt link => exact .inl ⟨attempt, link⟩
    | retries state attempt => exact .inr attempt
    | dies state attempt => exact .inr attempt
  have held := (Statement.held_of_selects executed.selected).2
  have others : ∀ claim ∈ before.claims, claim.job.id ≠ statement.id ->
      statement.token ≠ claim.job.processingToken := by
    intro claim made different same
    have one := fenced.claim_unique claimed made (of.2.symm.trans same)
    exact different (one ▸ of.1.symm)
  have kept : ∀ claim link, statement.token ≠ claim.job.processingToken ->
      before.Leaves claim link -> world.Leaves claim link := by
    intro claim link other left
    exact left.keep (executed.changed_iff other) (fun _ => by rw [silent])
  constructor
  case pending =>
    intro id later claim found state first
    rw [executed.claims] at first
    obtain ⟨made, id_eq, _⟩ := find_isFor first
    by_cases same : id = statement.id
    · subst same
      rw [executed.own] at found
      rcases leaves later found with ⟨attempt, link⟩ | advanced
      · -- The latest claim at this attempt is the one that settles.
        rw [attempt] at first
        have holder := succession.processing _ row claim executed.found held.1 first
        have one := fenced.claim_unique claimed made
          (of.2.symm.trans (Option.some.inj (held.2.symm.trans holder.2)))
        subst one
        refine .inr ⟨of.2 ▸ executed.changed, ?_⟩
        rw [silent, link, DbJob.bequest]
        by_cases committed : job.applicationStateCommitted = true
        · exact .inl ⟨reports.mpr committed, if_pos committed⟩
        · exact .inr ⟨fun member => committed (reports.mp member), if_neg committed⟩
      · have bounded := succession.attempts claim made row (id_eq ▸ executed.found)
        have attempt := (find_isFor first).2.2
        omega
    · rw [executed.others id same] at found
      refine kept claim later.link (others claim made ?_)
        (succession.pending id later claim found state first)
      rwa [id_eq]
  case processing =>
    intro id later claim found state first
    rw [executed.claims] at first
    exact succession.processing id later claim (executed.releases id later found state) state first
  case inherited =>
    intro newer claim older earlier split first
    rw [executed.claims] at split
    obtain ⟨left, lost⟩ := succession.inherited newer claim older earlier split first
    have made := subset_of_split split (find_isFor first).1
    refine ⟨kept earlier _ ?_ left, ?_⟩
    · intro same
      have one := fenced.claim_unique claimed made (of.2.symm.trans same)
      exact lost ⟨row, one ▸ of.1 ▸ executed.found, same ▸ held⟩
    · rintro ⟨later, found, holds⟩
      exact lost ⟨later, executed.releases _ _ found holds.1, holds⟩
  case attempts =>
    rw [executed.claims]
    intro claim made later found
    by_cases same : claim.job.id = statement.id
    · rw [same, executed.own] at found
      have bounded := succession.attempts claim made row (same ▸ executed.found)
      rcases leaves later found with ⟨attempt, _⟩ | advanced <;> omega
    · rw [executed.others _ same] at found
      exact succession.attempts claim made later found
  case ids =>
    rw [executed.claims, executed.nextId]
    exact succession.ids
  case reported =>
    rw [executed.claims, silent]
    exact succession.reported

end Succession

/-! ## What workers know of their reports -/

/-- A generation reports before it settles, and its job says what it
reported. -/
def Phase.Reports : Phase -> World -> Prop
  | .polling, _ => True
  | .claimed job, world =>
    job.applicationStateCommitted = false ∧
    job.processingToken ∉ world.reported ∧
    ¬world.Changed job.processingToken
  | .called job, world =>
    job.processingToken ∉ world.reported ∧
    ¬world.Changed job.processingToken
  | .running job committed, world => job.processingToken ∈ world.reported ↔ committed = true
  | .settling job _ _, world =>
    job.processingToken ∈ world.reported ↔ job.applicationStateCommitted = true
  | .confirmed _ _, _ => True
  | .published _ _, _ => True
  | .failing _, _ => True
  | .ended _, _ => True

/-- What is known of a generation depends on its own reports and changes. -/
theorem Phase.Reports.keep (reports : phase.Reports before)
    (agree : ∀ job, phase.job? = some job -> (world.Changed job.processingToken ↔
        before.Changed job.processingToken) ∧
      (job.processingToken ∈ world.reported ↔ job.processingToken ∈ before.reported)) :
    phase.Reports world := by
  cases phase with
  | claimed job =>
    obtain ⟨changed, reported⟩ := agree job rfl
    exact ⟨reports.1, fun member => reports.2.1 (reported.mp member),
      fun later => reports.2.2 (changed.mp later)⟩
  | called job =>
    obtain ⟨changed, reported⟩ := agree job rfl
    exact ⟨fun member => reports.1 (reported.mp member), fun later => reports.2 (changed.mp later)⟩
  | running job committed => exact (agree job rfl).2.trans reports
  | settling job result handled => exact (agree job rfl).2.trans reports
  | _ => trivial

/-- Links are passed on, and workers know what their generation reported. -/
def linksKept : Assertions World Phase where
  shared := fun _ world => Succession world
  thread := fun _ phase world => phase.Reports world

/-- Runs without administration. -/
def unattended : Condition World Op Op.Answer Move where
  operation := fun _ _ _ _ _ => True
  external := fun _ move _ => ∀ admin, move ≠ .admin admin

instance testableUnattended : unattended.Testable where
  operation := fun _ _ _ _ _ => .isTrue trivial
  external := fun _ move _ => by
    cases move with
    | dispatch => exact .isTrue (by simp [unattended])
    | admin admin => exact .isFalse (fun allowed => allowed admin rfl)
    | poll => exact .isTrue (by simp [unattended])

/-- Only a handler's report adds to the reports. -/
theorem exec_reported (silent : ∀ job, operation ≠ .reports job)
    (executed : exec settings label before operation choice = some (some answer, world)) :
    world.reported = before.reported := by
  cases operation with
  | reports job => exact absurd rfl (silent job)
  | recoverStaleProcessing now => rcases exec_recover executed with rfl | rfl <;> rfl
  | claim now =>
    rcases exec_claim executed with ⟨rfl, _⟩ | ⟨_, _, _, _, _, _, _, rfl, _⟩ <;> rfl
  | settle decision statement =>
    rcases exec_settle executed with ⟨_, rfl | rfl⟩ | ⟨_, _, rfl⟩ <;> rfl
  | repair statement => rcases exec_repair executed with rfl | rfl <;> rfl
  | _ =>
    cases choice <;> cases executed
    rfl

theorem exec_reports
    (executed : exec settings label before (.reports job) choice = some (some committed, world)) :
    world.reported = if committed then job.processingToken :: before.reported
      else before.reported := by
  cases choice <;> cases executed
  split <;> rfl

section Operation

variable (moved : WorkerMoves phase operation answer after)
  (executed : exec settings label before operation choice = some (some answer, world))
include moved executed

/-- A worker changes and reports for its own generation only. -/
theorem agree_operation (other : ∀ job, phase.job? = some job -> job.processingToken ≠ token) :
    (world.Changed token ↔ before.Changed token) ∧
      (token ∈ world.reported ↔ token ∈ before.reported) := by
  constructor
  · cases effect_operation moved executed with
    | same same => rw [World.Changed, same.changes, World.Changed]
    | recover now => exact Iff.rfl
    | claim => exact Iff.rfl
    | write writes changed => exact changed.changed_iff (writes.of.2 ▸ other _ rfl)
  · by_cases silent : ∀ job, operation ≠ .reports job
    · rw [exec_reported silent executed]
    · simp only [ne_eq, not_forall, not_not] at silent
      obtain ⟨job, rfl⟩ := silent
      cases moved with
      | reports job committed =>
        rw [exec_reports executed]
        split
        · rw [List.mem_cons]
          exact ⟨fun either => either.resolve_left fun same =>
            other job rfl same.symm, .inr⟩
        · exact Iff.rfl

/-- Reporting aside, a worker that reports has changed nothing yet. -/
theorem silent_operation (reports : phase.Reports before) (token : String)
    (changed : before.Changed token) :
    token ∈ world.reported ↔ token ∈ before.reported := by
  by_cases silent : ∀ job, operation ≠ .reports job
  · rw [exec_reported silent executed]
  · simp only [ne_eq, not_forall, not_not] at silent
    obtain ⟨job, rfl⟩ := silent
    refine (agree_operation moved executed ?_).2
    rintro own holds rfl
    cases moved
    cases holds
    exact reports.2 changed

/-- Reports come from claims. -/
theorem reported_operation (succession : Succession before)
    (known : claimsFenced.thread label phase before) :
    ∀ token ∈ world.reported, ∃ claim ∈ before.claims, claim.job.processingToken = token := by
  intro token member
  by_cases own : ∃ job, phase.job? = some job ∧ job.processingToken = token
  · obtain ⟨job, holds, same⟩ := own
    exact ⟨_, known job holds, same⟩
  · refine succession.reported token ((agree_operation moved executed ?_).2.mp member)
    exact fun job holds same => own ⟨job, holds, same⟩

theorem succession_operation (fenced : Fenced before) (linked : Linked before)
    (succession : Succession before) (known : claimsFenced.thread label phase before)
    (reports : phase.Reports before) :
    Succession world := by
  cases effect_operation moved executed with
  | same same =>
    exact succession.sameRows same (silent_operation moved executed reports)
      (reported_operation moved executed succession known)
  | recover now => exact succession.recover fenced now
  | claim found claimable valid fresh => exact succession.claim fenced found claimable fresh
  | write writes changed silent =>
    exact succession.executed fenced linked (known _ rfl) writes changed silent reports

/-- What a worker knows of its reports after an operation. -/
theorem reports_operation (fenced : Fenced before) (succession : Succession before)
    (reports : phase.Reports before) :
    after.Reports world := by
  cases moved with
  | now phase time =>
    have same := exec_quiet rfl executed
    refine reports.keep ?_
    intro job _
    rw [World.Changed, same.changes, World.Changed, exec_reported (by simp) executed]
    exact ⟨Iff.rfl, Iff.rfl⟩
  | claims now job =>
    rcases exec_claim executed with ⟨_, unclaimed⟩ | ⟨id, row, token, _, _, _, fresh, rfl, made⟩
    · exact absurd rfl (unclaimed job)
    · cases made job rfl
      refine ⟨rfl, ?_, ?_⟩
      · intro member
        obtain ⟨claim, earlier, same⟩ := succession.reported _ member
        exact fresh claim earlier same
      · rintro ⟨change, member, same⟩
        obtain ⟨_, claim, earlier, of, _⟩ := fenced.changed change member
        exact fresh claim earlier (of.2.symm.trans same)
  | missing job =>
    have unreported := reports.2.1
    rw [← exec_reported (by simp) executed] at unreported
    exact ⟨fun member => absurd member unreported,
      fun committed => absurd (reports.1.symm.trans committed) (by simp)⟩
  | found job =>
    have same := exec_quiet rfl executed
    refine ⟨?_, ?_⟩
    · rw [exec_reported (by simp) executed]
      exact reports.2.1
    · rw [World.Changed, same.changes]
      exact reports.2.2
  | reports job committed =>
    have added := exec_reports executed
    cases committed with
    | true => simp [Phase.Reports, added]
    | false => simpa [Phase.Reports, added] using reports.1
  | result job committed result =>
    simp only [Phase.Reports]
    rw [exec_reported (by simp) executed]
    exact reports
  | settles handled settles unconfirmed =>
    simp only [Phase.Reports]
    rw [exec_reported (by simp) executed]
    exact reports
  | confirms handled settles => cases handled <;> trivial
  | _ => trivial

theorem linksKept_frame (fenced : Fenced before) (known : claimsFenced.thread label phase before) :
    tokenHistory.FrameOver linksKept bound (· = label) before world := by
  intro other phase' _ different base reports
  refine reports.keep ?_
  intro job holds
  refine agree_operation moved executed ?_
  intro own ownHolds same
  have one := fenced.claim_unique (known own ownHolds) (base.1 job holds) same
  exact different (congrArg Claim.label one).symm

end Operation

theorem linksKept_kept :
    tokenHistory.KeptOver linksKept (queue settings) unattended workerProtocol where
  operation := by
    intro bound label phase after before world operation answer choice _
      shared known moved executed _
    obtain ⟨⟨fenced, linked⟩, succession⟩ := shared
    exact ⟨succession_operation moved executed fenced linked succession known.1.1 known.2,
      reports_operation moved executed fenced succession known.2,
      linksKept_frame moved executed fenced known.1.1⟩
  blocked := fun _ _ executed => absurd executed exec_answers
  finished := by
    intro bound label phase before world result _ shared _ _ settled
    cases settled
    exact ⟨shared.2.sameRows ⟨rfl, rfl, rfl, rfl⟩ (fun _ _ => Iff.rfl)
      shared.2.reported, fun _ _ _ _ _ reports => reports.keep fun _ _ => ⟨.rfl, .rfl⟩⟩
  idle := by
    intro bound before world move shared moved allowed
    cases move <;> cases moved
    · exact ⟨shared.2.dispatch shared.1.1 rfl,
        fun _ _ _ _ _ reports => reports.keep fun _ _ => ⟨.rfl, .rfl⟩⟩
    · exact absurd rfl (allowed _)
  started := by
    intro bound before world move program phase shared moved _ entered
    cases entered
    cases move <;> cases moved
    exact ⟨shared.2, trivial, fun _ _ _ _ _ reports => reports.keep fun _ _ => ⟨.rfl, .rfl⟩⟩

/-! ## Provenance of claims -/

/-- Following the links back to the latest generation that reported; the
claims skipped are of other rows or attempts. -/
theorem Succession.recoveryToken_eq (succession : Succession world)
    (reported : generation.job.processingToken ∈ world.reported) :
    ∀ (newer skipped older : List Claim) (claim : Claim), world.claims =
        newer ++ claim :: (skipped ++ (middle ++ generation :: older)) ->
      (∀ other ∈ skipped, ¬other.isFor claim.job.id claim.job.attempt = true) ->
      generation.isFor claim.job.id claim.job.attempt = true ->
      (∀ between ∈ middle, between.isFor claim.job.id claim.job.attempt = true ->
          between.job.processingToken ∉ world.reported ∧
          world.Changed between.job.processingToken) ->
        claim.job.recoveryToken = generation.job.processingToken := by
  have skip : ∀ (skipped rest : List Claim) (claim first : Claim), (∀ other ∈ skipped,
        ¬other.isFor claim.job.id claim.job.attempt = true) ->
      first.isFor claim.job.id claim.job.attempt = true ->
      (skipped ++ first :: rest).find?
        (Claim.isFor claim.job.id claim.job.attempt) = some first := by
    intro skipped rest claim first unrelated isFor
    rw [List.find?_append, List.find?_eq_none.mpr unrelated, List.find?_cons_of_pos isFor]
    rfl
  induction middle with
  | nil =>
    intro newer skipped older claim split unrelated isFor _
    obtain ⟨leaves, _⟩ := succession.inherited newer claim _ generation
      split (skip skipped older claim generation unrelated isFor)
    rcases leaves with ⟨_, own⟩ | ⟨_, ⟨_, own⟩ | ⟨unreported, _⟩⟩
    · exact own
    · exact own
    · exact absurd reported unreported
  | cons between rest ih =>
    intro newer skipped older claim split unrelated isFor settled
    by_cases related : between.isFor claim.job.id claim.job.attempt = true
    · -- The predecessor passed on the link it had inherited.
      obtain ⟨id_eq, attempt_eq⟩ := Claim.isFor_iff.mp related
      obtain ⟨leaves, _⟩ := succession.inherited newer claim _ between
        split (skip skipped _ claim between unrelated related)
      obtain ⟨unreported, changed⟩ := settled between List.mem_cons_self related
      have inherited : claim.job.recoveryToken =
          between.job.recoveryToken := by
        rcases leaves with ⟨unchanged, _⟩ | ⟨_, ⟨member, _⟩ | ⟨_, link⟩⟩
        · exact absurd changed unchanged
        · exact absurd member unreported
        · exact link
      rw [inherited]
      rw [← id_eq, ← attempt_eq] at isFor settled
      refine ih (newer ++ claim :: skipped) [] older between
        (by simpa using split) (by simp) isFor ?_
      exact fun later member =>
        settled later (List.mem_cons_of_mem _ member)
    · refine ih newer (skipped ++ [between]) older claim (by simpa using split) ?_ isFor ?_
      · intro other member
        rcases List.mem_append.mp member with early | late
        · exact unrelated other early
        · rw [List.mem_singleton.mp late]
          exact related
      · exact fun later member =>
          settled later (List.mem_cons_of_mem _ member)

/-- Every generation that a claim is told it recovers is an earlier claim of
the same row and attempt that never finalized the row; a row whose attempt
changes loses its link; and without administration a claim is told the latest
generation of its row and attempt that reported its application state, if every
claim since then has settled or repaired the row. -/
theorem recovery_provenance {table : Table} {nextId : Int} (unclaimed : Unclaimed table nextId) :
    (∀ config, (queue settings).Reaches .always (.initial (.start table nextId)) config ->
      (∀ newer claim older, config.world.claims = newer ++ claim :: older ->
        claim.job.recoveryToken ≠ "" -> ∃ earlier ∈ older, earlier.job.id = claim.job.id ∧
            earlier.job.attempt = claim.job.attempt ∧
            earlier.job.processingToken = claim.job.recoveryToken ∧
            ¬config.world.Finalized earlier.job.processingToken) ∧
      ∀ next, (queue settings).Step .always config next ->
        ∀ id row later, config.world.table.get id = some row ->
          next.world.table.get id = some later ->
          later.attempt ≠ row.attempt -> later.processingToken = none) ∧
    ∀ config, (queue settings).Reaches unattended (.initial (.start table nextId)) config ->
      ∀ newer claim middle generation older, config.world.claims =
          newer ++ claim :: (middle ++ generation :: older) ->
        generation.isFor claim.job.id claim.job.attempt = true ->
        generation.job.processingToken ∈ config.world.reported ->
        (∀ between ∈ middle, between.isFor claim.job.id claim.job.attempt = true ->
            between.job.processingToken ∉ config.world.reported ∧
            config.world.Changed between.job.processingToken) ->
          claim.job.recoveryToken = generation.job.processingToken := by
  refine ⟨?_, ?_⟩
  · intro config reached
    have hold := hold_tokenHistory unclaimed reached
    refine ⟨?_, ?_⟩
    · intro newer claim older split link
      obtain ⟨earlier, made, id_eq, attempt_eq, token_eq, _, unfinished⟩ :=
        hold.shared.2.inherited newer claim older split link
      exact ⟨earlier, made, id_eq, attempt_eq, token_eq, token_eq ▸ unfinished⟩
    · intro next step
      exact hold.relates_step tokenHistory_clears step hold.shared.1
  · intro config reached newer claim middle generation older split isFor reported settled
    have initial : (tokenHistory.and linksKept).Hold workerProtocol
        (Config.initial (World.start table nextId)) :=
      .initial ⟨⟨unclaimed.fenced, unclaimed.linked⟩, succession_start⟩
    have kept := ((tokenHistory_kept settings).restrict).over linksKept_kept
    have succession := (initial.reaches governs kept reached).shared.2
    exact succession.recoveryToken_eq reported newer [] older claim split (by simp) isFor settled

/-- The token made of one repeated byte. -/
def tokenOf (byte : UInt8) : String := hexEncode (List.replicate 16 byte)

/-- A claim of the row that `dispatchEmail` inserts first. -/
def emailClaim (label : Nat) (byte : UInt8) (recovery : Option String) : Claim :=
  { label := label
    job :=
      { id := 1
        processingToken := tokenOf byte
        queueName := "default"
        jobType := "email"
        timeoutSeconds := none
        maxRetry := 1
        backoffMillis := 0
        attempt := 0
        recovered := recovery.isSome
        recoveryToken := recovery.getD ""
        applicationStateCommitted := false } }

/-- A handler reports its state, asks for redelivery and is settled. -/
def redelivered (label : Nat) (byte : UInt8) (reports : Bool) : List (Action Choice Move) :=
  [.external .poll] ++
  perform label [.time 0, .execution .reported, .claim 1 (List.replicate 16 byte) none,
    .registered true, .reports reports, .result (some (.uncommitted (.text "later"))), .time 0,
    .execution .reported]

/-- A third claim after two redeliveries. -/
def thirdClaim (secondReports : Bool) : List (Action Choice Move) :=
  [.external dispatchEmail] ++ redelivered 0 0 true ++
  redelivered 1 1 secondReports ++ [.external .poll] ++
  perform 2 [.time 0, .execution .reported, .claim 1 (List.replicate 16 2) none]

/-- The first generation reported and the second did not: the third claim is
told the first. -/
theorem recovery_provenance_third_claim :
    ∃ config, (queue sqliteSettings).Reaches unattended (.initial (.start .empty 1)) config ∧
      config.world.claims = [emailClaim 2 2 (tokenOf 0), emailClaim 1 1 (tokenOf 0),
          emailClaim 0 0 none] ∧
      (emailClaim 2 2 (tokenOf 0)).job.recoveryToken =
        (emailClaim 0 0 none).job.processingToken := by
  obtain ⟨config, reached, claims, reported, changes⟩ :
      ∃ config, (queue sqliteSettings).Reaches unattended (.initial (.start .empty 1)) config ∧
        config.world.claims = [emailClaim 2 2 (tokenOf 0), emailClaim 1 1 (tokenOf 0),
          emailClaim 0 0 none] ∧
        config.world.reported = [tokenOf 0] ∧
        config.world.changes.map Change.token = [tokenOf 1, tokenOf 0] :=
    Machine.Reaches.of_decide (thirdClaim false) (by decide +kernel)
  refine ⟨config, reached, claims, ?_⟩
  refine (recovery_provenance unclaimed_empty).2 config reached [] (emailClaim 2 2 (tokenOf 0))
    [emailClaim 1 1 (tokenOf 0)] (emailClaim 0 0 none) [] claims (by decide +kernel) ?_ ?_
  · rw [reported]
    exact List.mem_singleton.mpr rfl
  · intro between member _
    rw [List.mem_singleton.mp member, reported]
    refine ⟨by decide +kernel, ?_⟩
    have changed : tokenOf 1 ∈ config.world.changes.map Change.token := by
      rw [changes]
      exact List.mem_cons_self
    exact List.mem_map.mp changed

/-- A second generation that reports its own state and is settled takes the
place of the first: the third claim is told the second, although the first one
reported and never finalized the row. -/
theorem recovery_provenance_replaced :
    ∃ config, (queue sqliteSettings).Reaches unattended (.initial (.start .empty 1)) config ∧
      config.world.claims = [emailClaim 2 2 (tokenOf 1), emailClaim 1 1 (tokenOf 0),
          emailClaim 0 0 none] ∧
      config.world.reported = [tokenOf 1, tokenOf 0] ∧
      config.world.changes.map (fun change => (change.token, change.decision)) =
        [(tokenOf 1, some .redeliver), (tokenOf 0, some .redeliver)] ∧
      (emailClaim 2 2 (tokenOf 1)).job.recoveryToken ≠ (emailClaim 0 0 none).job.processingToken :=
  Machine.Reaches.of_decide (thirdClaim true) (by decide +kernel)

end JobQueue.SqlQueue
