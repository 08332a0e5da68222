import JobQueue.SqlQueue.Fencing

/-!
# Recovery provenance of the SQL queue

The token that stays on a pending row links the next claim to the generation
that held the row before. The link is truthful: it names an earlier claim of
the same attempt that never finalized the row. Without administration it is
also kept: it always names the latest generation that reported its application
state as committed, as long as the claims after it are settled or repaired.
-/

namespace JobQueue.SqlQueue

open Interleaving
open Statement (Held)

/-! ## Links -/

/-- The generation that a claim of the row is told it recovers. -/
def Row.link (row : Row) : String :=
  (databaseRecoveryProof row.processingToken).1

/-- A claimed job that inherits a generation knows that it is recovered. -/
def DbJob.Proved (job : DbJob) : Prop :=
  job.recoveryToken ≠ "" -> job.recovered = true ∧
    databaseProcessingTokenValid job.recoveryToken = true

/-- The generation that a job leaves behind when its attempt is not over. -/
def DbJob.bequest (job : DbJob) : String :=
  if job.applicationStateCommitted then job.processingToken
  else job.recoveryToken

theorem databaseRecoveryProof_cases (stored : Option String) :
    (databaseRecoveryProof stored).1 = "" ∨
    ∃ token, stored = some token ∧ databaseProcessingTokenValid token = true ∧
      databaseRecoveryProof stored = (token, true) := by
  cases stored with
  | none => exact .inl rfl
  | some token =>
    cases valid : databaseProcessingTokenValid token with
    | false => exact .inl (databaseRecoveryProof_of_not_valid valid)
    | true => exact .inr ⟨token, rfl, valid, databaseRecoveryProof_of_valid valid⟩

variable {row : Row}

theorem Row.valid_link (linked : row.link ≠ "") :
    databaseProcessingTokenValid row.link = true ∧ row.processingToken = some row.link := by
  rcases databaseRecoveryProof_cases row.processingToken with empty | ⟨token, stored, valid, proof⟩
  · exact absurd empty linked
  · have same : row.link = token := by rw [Row.link, proof]
    rw [same]
    exact ⟨valid, stored⟩

theorem Row.link_of_cleared (cleared : row.processingToken = none) : row.link = "" := by
  rw [Row.link, cleared]
  rfl

/-- Stale recovery keeps the link. -/
theorem Row.link_recover (row : Row) : (row.recover now).link = row.link := by
  simp only [Row.link, Row.recover]
  cases stored : row.processingToken with
  | none => rfl
  | some token =>
    by_cases empty : token = ""
    · simp only [empty, ne_eq, not_true_eq_false, if_false]
      rw [databaseRecoveryProof_of_not_valid databaseProcessingTokenValid_empty]
      rfl
    · simp [empty]

theorem claimedJob_proved (id : Int) : (claimedJob id row token).Proved := by
  intro linked
  rcases databaseRecoveryProof_cases row.processingToken with empty | ⟨earlier, _, valid, proof⟩
  · exact absurd empty linked
  · simp only [claimedJob, proof]
    exact ⟨trivial, valid⟩

/-- The link written by a settlement that keeps the attempt. -/
theorem proof_databasePendingRecoveryToken (proved : job.Proved)
    (valid : databaseProcessingTokenValid job.processingToken = true)
    (pending : settlement.state = .pending) (same : settlement.attempt = job.attempt) :
    (databaseRecoveryProof (databasePendingRecoveryToken job settlement)).1 = job.bequest := by
  simp only [databasePendingRecoveryToken, DbJob.bequest, pending, same,
    ne_eq, not_true_eq_false, or_self, if_false]
  cases job.applicationStateCommitted with
  | true => simp [valid, databaseRecoveryProof_of_valid valid]
  | false =>
    by_cases empty : job.recoveryToken = ""
    · cases job.recovered
      · simp [empty, databaseRecoveryProof]
      · simp [empty, databaseRecoveryProof]
    · obtain ⟨recovered, inherited⟩ := proved empty
      simp [empty, recovered, inherited, databaseRecoveryProof_of_valid inherited]

/-- A repair restores the inherited link, and only for a job that committed
nothing itself. -/
theorem proof_databaseSettlementRecoveryToken
    (restored : databaseSettlementRecoveryToken job = .ok (some recovery)) :
    (databaseRecoveryProof (some recovery)).1 = job.bequest := by
  unfold databaseSettlementRecoveryToken at restored
  split at restored
  · cases restored
  · rename_i repairable
    have uncommitted : job.applicationStateCommitted = false := by
      cases flag : job.applicationStateCommitted
      · rfl
      · simp [flag] at repairable
    split at restored
    · rename_i empty
      cases restored
      simp [DbJob.bequest, uncommitted, empty, databaseRecoveryProof]
    · split at restored
      · cases restored
      · rename_i valid
        cases restored
        simp only [Bool.not_eq_true, Bool.not_eq_false'] at valid
        simp [DbJob.bequest, uncommitted, databaseRecoveryProof_of_valid valid]

/-! ## Outcomes of settlements -/

/-- What the settlement of a job makes of its row. -/
inductive Outcome (job : DbJob) (row : Row) : AttemptDecision -> Option Row -> Prop
  | succeeded : Outcome job row .succeeded none
  | retry
      {next : Row} (state : next.state = .pending)
      (attempt : next.attempt = job.attempt + 1)
      (cleared : next.processingToken = none)
      (maxRetry : next.maxRetry = row.maxRetry)
      (budget : job.attempt < job.maxRetry) :
      Outcome job row .retry (some next)
  | failed
      {next : Row} (state : next.state = .dead)
      (attempt : next.attempt = job.attempt + 1)
      (cleared : next.processingToken = none)
      (maxRetry : next.maxRetry = row.maxRetry) :
      Outcome job row .failed (some next)
  | redeliver
      {next : Row} (state : next.state = .pending)
      (attempt : next.attempt = job.attempt)
      (link : next.link = job.bequest)
      (maxRetry : next.maxRetry = row.maxRetry) :
      Outcome job row .redeliver (some next)

/-- Settlement statements do what their decision says. -/
theorem Settles.outcome (settles : Settles job result decision statement) (proved : job.Proved)
    (valid : databaseProcessingTokenValid job.processingToken = true) (row : Row) :
    Outcome job row decision (statement.change row) := by
  cases settles with
  | done => exact .succeeded
  | @failed error now settlement classified =>
    unfold classifyDatabaseFailure at classified
    split at classified
    · rename_i decided
      cases classified
      rw [decided]
      refine .retry rfl rfl ?_ rfl (unmarked_of_retry decided).2.2
      have advanced : job.attempt + 1 ≠ job.attempt := by omega
      simp [databasePendingRecoveryToken, databasePendingSettlement, advanced]
    · rename_i decided
      cases classified
      rw [decided]
      exact .failed rfl rfl rfl rfl
    · rename_i decided
      cases classified
      rw [decided]
      refine .redeliver rfl rfl ?_ rfl
      exact proof_databasePendingRecoveryToken proved valid rfl rfl
    · cases classified

/-- A repair returns the row with its attempt and the inherited link. -/
theorem Repairs.outcome (repairs : Repairs job statement) (row : Row) :
    ∃ next, statement.change row = some next ∧ next.state = .pending ∧ next.attempt = row.attempt ∧
      next.link = job.bequest ∧ next.maxRetry = row.maxRetry := by
  cases repairs with
  | mk availableAt lastError inherited =>
    exact ⟨_, rfl, rfl, rfl, proof_databaseSettlementRecoveryToken inherited, rfl⟩

/-! ## Provenance -/

/-- The change ends the attempt or the job. -/
def Change.Finalizes (change : Change) : Prop :=
  change.decision ≠ none ∧ change.decision ≠ some .redeliver

instance (change : Change) : Decidable change.Finalizes :=
  inferInstanceAs (Decidable (_ ∧ _))

/-- A claim with this token finalized its row. -/
def World.Finalized (world : World) (token : String) : Prop :=
  ∃ change ∈ world.changes, change.token = token ∧ change.Finalizes

/-- The token is that of an earlier claim of the row at this attempt, which
lost the row without finalizing it. -/
def World.Provenance (world : World) (id attempt : Int) (older : List Claim)
    (token : String) : Prop :=
  ∃ claim ∈ older, claim.job.id = id ∧ claim.job.attempt = attempt ∧
    claim.job.processingToken = token ∧ ¬claim.Current world ∧ ¬world.Finalized token

/-- Links on rows and in claims are truthful. -/
structure Linked (world : World) : Prop where
  pending : ∀ id row, world.table.get id = some row -> row.state ≠ .processing -> row.link ≠ "" ->
      world.Provenance id row.attempt world.claims row.link
  inherited : ∀ newer claim older, world.claims = newer ++ claim :: older ->
    claim.job.recoveryToken ≠ "" ->
    world.Provenance claim.job.id claim.job.attempt older claim.job.recoveryToken
  proved : ∀ claim ∈ world.claims, claim.job.Proved

variable {settings : Settings} {label : Nat} {world : World}

theorem Unclaimed.linked (unclaimed : Unclaimed table nextId) :
    Linked (World.start table nextId) where
  pending := by
    intro id row found _ linked
    obtain ⟨valid, stored⟩ := row.valid_link linked
    rw [unclaimed.tokens id row _ found stored] at valid
    cases valid
  inherited := by
    intro newer claim older split
    simp [World.start] at split
  proved := by
    intro claim member
    cases member

theorem World.Provenance.keep {id : Int} (provenance : before.Provenance id attempt older token)
    (subset : older ⊆ before.claims) (supersedes : Supersedes before world)
    (changes : world.changes = before.changes) :
    world.Provenance id attempt older token := by
  obtain ⟨claim, made, id_eq, attempt_eq, token_eq, lost, unfinished⟩ := provenance
  refine ⟨claim, made, id_eq, attempt_eq, token_eq, ?_, ?_⟩
  · exact fun current => lost (supersedes.2 claim (subset made) current)
  · rwa [World.Finalized, changes]

theorem World.Provenance.mono {id : Int} (provenance : world.Provenance id attempt older token)
    (subset : older ⊆ wider) :
    world.Provenance id attempt wider token := by
  obtain ⟨claim, made, rest⟩ := provenance
  exact ⟨claim, subset made, rest⟩

/-- A claim that lost its row is not the one whose statement changes it. -/
theorem World.Provenance.executed {id : Int} (provenance : before.Provenance id attempt older token)
    (subset : older ⊆ before.claims) (fenced : Fenced before)
    (executed : before.Executed decision statement row world)
    (claimed : ∃ claim ∈ before.claims, statement.Of claim.job) :
    world.Provenance id attempt older token := by
  obtain ⟨claim, made, id_eq, attempt_eq, token_eq, lost, unfinished⟩ := provenance
  refine ⟨claim, made, id_eq, attempt_eq, token_eq, ?_, ?_⟩
  · rintro ⟨later, found, held⟩
    exact lost ⟨later, executed.releases _ _ found held.1, held⟩
  · rintro ⟨change, member, same, finalizes⟩
    rw [executed.changes] at member
    rcases List.mem_cons.mp member with rfl | earlier
    · obtain ⟨owner, owned, of⟩ := claimed
      have one := fenced.claim_unique (subset made) owned (token_eq.trans (same.symm.trans of.2))
      subst one
      exact lost ⟨row, of.1 ▸ executed.found,
        of.2 ▸ (Statement.held_of_selects executed.selected).2⟩
    · exact unfinished ⟨change, earlier, same, finalizes⟩

theorem subset_of_split (split : claims = newer ++ claim :: older) : older ⊆ claims :=
  fun _ member => split ▸ List.mem_append_right _ (List.mem_cons_of_mem _ member)

namespace Linked

variable (linked : Linked before)

include linked

/-- Rows that are processing aside, every row keeps its attempt and link, or
loses the link. -/
theorem keep (supersedes : Supersedes before world) (claims : world.claims = before.claims)
    (changes : world.changes = before.changes)
    (rows : ∀ id row, world.table.get id = some row -> row.state ≠ .processing -> row.link ≠ "" ->
        world.Provenance id row.attempt before.claims row.link) :
    Linked world where
  pending := by
    intro id row found released linkedRow
    rw [claims]
    exact rows id row found released linkedRow
  inherited := by
    intro newer claim older split link
    rw [claims] at split
    exact (linked.inherited newer claim older split link).keep
      (subset_of_split split) supersedes changes
  proved := claims ▸ linked.proved

theorem sameRows (same : before.SameRows world) : Linked world := by
  refine linked.keep same.supersedes same.claims same.changes ?_
  intro id row found released link
  rw [same.table] at found
  exact (linked.pending id row found released link).keep (List.Subset.refl _)
    same.supersedes same.changes

theorem recover (fenced : Fenced before) :
    Linked { before with table := recoverStaleProcessing settings now before.table } := by
  have supersedes : Supersedes before { before with
      table := recoverStaleProcessing settings now before.table } :=
    .of_releases (List.Subset.refl _) releases_recover
  refine linked.keep supersedes rfl rfl ?_
  intro id row found released link
  have stored := found
  simp only [get_recoverStaleProcessing] at found
  obtain ⟨earlier, present, same⟩ := Option.map_eq_some_iff.mp found
  split at same
  · -- The lost claim itself is what the row now links to.
    rename_i stale
    subst same
    have processing := Row.processing_of_stale stale
    rw [Row.link_recover] at link ⊢
    obtain ⟨valid, token⟩ := earlier.valid_link link
    obtain ⟨⟨claim, made, id_eq, token_eq, attempt_eq, _⟩, unchanged⟩ :=
      fenced.held id earlier earlier.link present ⟨processing, token⟩ valid
    refine ⟨claim, made, id_eq, attempt_eq, token_eq, ?_, ?_⟩
    · rintro ⟨later, laterFound, held⟩
      rw [id_eq, stored] at laterFound
      cases laterFound
      exact released held.1
    · rintro ⟨change, member, change_eq, _⟩
      exact unchanged change member change_eq
  · subst same
    exact (linked.pending id earlier present released link).keep (List.Subset.refl _) supersedes rfl

theorem admin (admin : Admin) : Linked { before with table := admin.apply before.table } := by
  have supersedes : Supersedes before { before with table := admin.apply before.table } :=
    .of_releases (List.Subset.refl _) (releases_admin _)
  refine linked.keep supersedes rfl rfl ?_
  intro id row found released link
  rcases admin.get_apply_cases before.table id with same | gone | ⟨_, next, _, after, _, cleared, _⟩
  · exact (linked.pending id row (same ▸ found) released link).keep
      (List.Subset.refl _) supersedes rfl
  · rw [gone] at found
    cases found
  · rw [after] at found
    cases found
    exact absurd (Row.link_of_cleared cleared) link

theorem dispatch (fenced : Fenced before)
    (pending : row.state = .pending) (blank : row.processingToken = none) :
    Linked { before with
      table := before.table.insert before.nextId row
      nextId := before.nextId + 1 } := by
  have supersedes : Supersedes before { before with
      table := before.table.insert before.nextId row
      nextId := before.nextId + 1 } :=
    .of_releases (List.Subset.refl _) (fenced.releases_insert pending)
  refine linked.keep supersedes rfl rfl ?_
  intro id later found released link
  rw [KeyedTable.get_insert _ fenced.get_nextId] at found
  split at found
  · cases found
    exact absurd (Row.link_of_cleared blank) link
  · exact (linked.pending id later found released link).keep (List.Subset.refl _) supersedes rfl

theorem claim {id : Int} (found : before.table.get id = some row)
    (claimable : row.claimable settings now = true)
    (fresh : ∀ claim ∈ before.claims, claim.job.processingToken ≠ token) :
    Linked (before.claim label id now row token) := by
  have pending := Row.pending_of_claimable claimable
  have supersedes : Supersedes before (before.claim label id now row token) :=
    supersedes_claim found claimable fresh
  constructor
  case pending =>
    intro other later present released link
    simp only [World.claim] at present
    rw [get_claimRow found pending] at present
    split at present
    · cases present
      exact absurd rfl released
    · exact ((linked.pending other later present released link).keep
        (List.Subset.refl _) supersedes rfl).mono (List.subset_cons_self _ _)
  case inherited =>
    intro newer claim older split link
    rcases List.cons_eq_append_iff.mp split with ⟨_, same⟩ | ⟨rest, _, same⟩
    · cases same
      exact (linked.pending id row found (by simp [pending]) link).keep
        (List.Subset.refl _) supersedes rfl
    · exact (linked.inherited rest claim older same link).keep (subset_of_split same) supersedes rfl
  case proved =>
    intro claim member
    rcases List.mem_cons.mp member with rfl | earlier
    · exact claimedJob_proved id
    · exact linked.proved claim earlier

theorem proved_of_claimed (claimed : before.Claimed label job) : job.Proved :=
  linked.proved _ claimed

end Linked

/-- What a statement of a job leaves of its row. -/
inductive Continues (job : DbJob) (row next : Row) : Option AttemptDecision -> Prop
  | keeps
      {decision : Option AttemptDecision} (state : next.state = .pending)
      (attempt : next.attempt = row.attempt)
      (link : next.link = job.bequest)
      (undecided : decision = none ∨ decision = some .redeliver) :
      Continues job row next decision
  | retries (state : next.state = .pending) (attempt : next.attempt = row.attempt + 1)
      (cleared : next.processingToken = none) (budget : row.attempt < row.maxRetry) :
      Continues job row next (some .retry)
  | dies (state : next.state = .dead) (attempt : next.attempt = row.attempt + 1)
      (cleared : next.processingToken = none) :
      Continues job row next (some .failed)

theorem Writes.continues (writes : Writes job decision statement) (fenced : Fenced before)
    (linked : Linked before) (claimed : before.Claimed label job)
    (executed : before.Executed decision statement row world)
    (changed : statement.change row = some next) :
    next.maxRetry = row.maxRetry ∧ Continues job row next decision := by
  cases writes with
  | settles settles =>
    obtain ⟨attempt_eq, maxRetry_eq, _⟩ := fenced.executed_job claimed (settles_of settles) executed
    have outcome := settles.outcome (linked.proved_of_claimed claimed) (fenced.valid _ claimed) row
    rw [changed] at outcome
    cases outcome with
    | retry state attempt cleared maxRetry budget =>
      rw [attempt_eq] at attempt
      rw [attempt_eq, maxRetry_eq] at budget
      exact ⟨maxRetry, .retries state attempt cleared budget⟩
    | failed state attempt cleared maxRetry =>
      exact ⟨maxRetry, .dies state (attempt_eq ▸ attempt) cleared⟩
    | redeliver state attempt link maxRetry =>
      exact ⟨maxRetry, .keeps state (attempt.trans attempt_eq) link (.inr rfl)⟩
  | repairs repairs =>
    obtain ⟨later, same, state, attempt, link, maxRetry⟩ := repairs.outcome row
    rw [changed] at same
    cases same
    exact ⟨maxRetry, .keeps state attempt link (.inl rfl)⟩

/-- The rows after a statement of a claim. A link that the statement leaves
is the generation the job bequeaths, and the attempt is not over then. -/
theorem Linked.executed (linked : Linked before) (fenced : Fenced before)
    (claimed : before.Claimed label job) (writes : Writes job decision statement)
    (executed : before.Executed decision statement row world) :
    Linked world := by
  have of := writes.of
  have owner : ∃ claim ∈ before.claims, statement.Of claim.job := claimed.exists_of of
  obtain ⟨attempt_eq, _, untouched⟩ := fenced.executed_job claimed of executed
  constructor
  case pending =>
    intro id later found released link
    rw [executed.claims]
    by_cases same : id = statement.id
    · subst same
      rw [executed.own] at found
      have continues := (writes.continues fenced linked claimed executed found).2
      obtain ⟨kept, link_eq, undecided⟩ : later.attempt = row.attempt ∧ later.link = job.bequest ∧
          (decision = none ∨ decision = some .redeliver) := by
        cases continues with
        | keeps state attempt bequest undecided => exact ⟨attempt, bequest, undecided⟩
        | retries state attempt cleared => exact absurd (Row.link_of_cleared cleared) link
        | dies state attempt cleared => exact absurd (Row.link_of_cleared cleared) link
      rw [kept]
      by_cases committed : job.applicationStateCommitted = true
      · -- The claim links to itself.
        have own : later.link = job.processingToken := by
          rw [link_eq, DbJob.bequest, if_pos committed]
        rw [own]
        refine ⟨_, claimed, of.1.symm, attempt_eq, rfl, ?_, ?_⟩
        · rintro ⟨current, present, held⟩
          have present : world.table.get statement.id = some current := of.1 ▸ present
          rw [executed.own, found] at present
          cases present
          exact released held.1
        · rintro ⟨change, member, token_eq, finalizes⟩
          rw [executed.changes] at member
          rcases List.mem_cons.mp member with rfl | earlier
          · exact undecided.elim finalizes.1 finalizes.2
          · exact untouched change earlier token_eq
      · have inherited : later.link = job.recoveryToken := by
          rw [link_eq, DbJob.bequest, if_neg committed]
        rw [inherited] at link ⊢
        obtain ⟨newer, older, split⟩ := List.append_of_mem claimed
        have provenance := linked.inherited newer _ older split link
        have subset := subset_of_split split
        have earlier := (provenance.executed subset fenced executed owner).mono subset
        rw [of.1, ← attempt_eq]
        exact earlier
    · rw [executed.others id same] at found
      exact (linked.pending id later found released link).executed
        (List.Subset.refl _) fenced executed owner
  case inherited =>
    intro newer claim older split link
    rw [executed.claims] at split
    exact (linked.inherited newer claim older split link).executed
      (subset_of_split split) fenced executed owner
  case proved => exact executed.claims ▸ linked.proved

/-- Links are truthful. -/
def linksTruthful : Assertions World Phase where
  shared := fun _ world => Linked world
  thread := fun _ _ _ => True

theorem Effect.linked (effect : Effect settings label before phase world) (fenced : Fenced before)
    (linked : Linked before) (known : claimsFenced.thread label phase before) : Linked world := by
  cases effect with
  | same same => exact linked.sameRows same
  | recover now => exact linked.recover fenced
  | claim found claimable valid fresh => exact linked.claim found claimable fresh
  | write writes executed => exact linked.executed fenced (known _ rfl) writes executed

theorem linked_external (fenced : Fenced before) (linked : Linked before)
    (moved : external settings label before move = some (world, started)) :
    Linked world := by
  cases move <;> cases moved
  · exact linked.dispatch fenced rfl rfl
  · exact linked.admin _
  · exact linked

theorem linksTruthful_kept :
    claimsFenced.KeptOver linksTruthful (queue settings) .always workerProtocol where
  operation := fun _ shared known moved executed _ =>
    ⟨(effect_operation moved executed).linked shared.1 shared.2 known.1, trivial,
      fun _ _ _ _ _ _ => trivial⟩
  blocked := fun _ _ executed => absurd executed exec_answers
  finished := by
    intro bound label phase before world result _ shared _ _ settled
    cases settled
    exact ⟨shared.2.sameRows ⟨rfl, rfl, rfl, rfl⟩, fun _ _ _ _ _ _ => trivial⟩
  idle := by
    intro bound before world move shared moved _
    exact ⟨@linked_external settings bound _ _ _ _ shared.1 shared.2 moved,
      fun _ _ _ _ _ _ => trivial⟩
  started := by
    intro bound before world move program phase shared moved _ _
    exact ⟨@linked_external settings bound _ _ _ _ shared.1 shared.2 moved,
      trivial, fun _ _ _ _ _ _ => trivial⟩

/-- Fences and truthful links together. -/
def tokenHistory : Assertions World Phase := claimsFenced.and linksTruthful

theorem tokenHistory_kept (settings : Settings) :
    tokenHistory.Kept (queue settings) .always workerProtocol :=
  claimsFenced_kept.over linksTruthful_kept

theorem hold_tokenHistory (unclaimed : Unclaimed table nextId)
    (reached : (queue settings).Reaches .always (.initial (.start table nextId)) config) :
    tokenHistory.Hold workerProtocol config := by
  have initial : tokenHistory.Hold workerProtocol (Config.initial (World.start table nextId)) :=
    .initial ⟨unclaimed.fenced, unclaimed.linked⟩
  exact initial.reaches governs (tokenHistory_kept settings) reached

/-! ## The attempt of a row -/

/-- A row whose attempt changes loses its link. -/
def ClearsWithAttempt (before after : World) : Prop :=
  ∀ id row next, before.table.get id = some row ->
    after.table.get id = some next -> next.attempt ≠ row.attempt -> next.processingToken = none

theorem ClearsWithAttempt.of_attempts
    (attempts : ∀ id row next, before.table.get id = some row ->
      world.table.get id = some next -> next.attempt = row.attempt) :
    ClearsWithAttempt before world :=
  fun id row next found after changed =>
    absurd (attempts id row next found after) changed

theorem ClearsWithAttempt.of_same (same : world.table = before.table) :
    ClearsWithAttempt before world := by
  refine .of_attempts ?_
  intro id row next found after
  rw [same, found] at after
  cases after
  rfl

theorem World.Executed.clears (executed : before.Executed decision statement row world)
    (own : ∀ next, statement.change row = some next ->
      next.attempt ≠ row.attempt -> next.processingToken = none) :
    ClearsWithAttempt before world := by
  intro id earlier next found after changed
  by_cases same : id = statement.id
  · subst same
    rw [executed.found] at found
    cases found
    exact own next (executed.own ▸ after) changed
  · rw [executed.others id same, found] at after
    cases after
    exact absurd rfl changed

theorem attempt_recover {id : Int} (found : table.get id = some row)
    (after : (recoverStaleProcessing settings now table).get id = some next) :
    next.attempt = row.attempt ∧ next.maxRetry = row.maxRetry := by
  rw [get_recoverStaleProcessing, found, Option.map_some] at after
  split at after <;> cases after <;> exact ⟨rfl, rfl⟩

theorem attempt_claimRow
    {id : Int} (found : table.get id = some row) (pending : row.state = .pending)
    (present : table.get other = some earlier)
    (after : (claimRow id now token table).get other = some next) :
    next.attempt = earlier.attempt ∧ next.maxRetry = earlier.maxRetry := by
  rw [get_claimRow found pending] at after
  split at after
  · rename_i same
    subst same
    rw [found] at present
    cases present
    cases after
    exact ⟨rfl, rfl⟩
  · rw [present] at after
    cases after
    exact ⟨rfl, rfl⟩

theorem Effect.clears (effect : Effect settings label before phase world) (fenced : Fenced before)
    (linked : Linked before) (known : claimsFenced.thread label phase before) :
    ClearsWithAttempt before world := by
  cases effect with
  | same same => exact .of_same same.table
  | recover now =>
    exact .of_attempts fun _ _ _ found after =>
      (attempt_recover found after).1
  | claim found claimable valid fresh =>
    exact .of_attempts fun _ _ _ present after =>
      (attempt_claimRow found (Row.pending_of_claimable claimable) present after).1
  | write writes executed =>
    refine executed.clears fun next changed advanced => ?_
    cases (writes.continues fenced linked (known _ rfl) executed changed).2 with
    | keeps state attempt => exact absurd attempt advanced
    | retries state attempt cleared => exact cleared
    | dies state attempt cleared => exact cleared

/-- Every step that changes the attempt of a row clears its link. -/
theorem tokenHistory_clears :
    tokenHistory.Relates (queue settings) .always workerProtocol
      fun before after => Fenced before -> ClearsWithAttempt before after where
  operation := fun _ shared known moved executed _ _ =>
    (effect_operation moved executed).clears shared.1 shared.2 known.1
  blocked := fun executed => absurd executed exec_answers
  finished := by
    intro label before world result settled _
    cases settled
    exact .of_same rfl
  external := by
    intro bound before world move started moved allowed fenced
    clear allowed
    cases move <;> cases moved
    · refine .of_attempts ?_
      intro id row next found after
      rw [KeyedTable.get_insert _ fenced.get_nextId] at after
      split at after
      · rename_i same
        rw [same, fenced.get_nextId] at found
        cases found
      · rw [found] at after
        cases after
        rfl
    · rename_i admin
      refine .of_attempts ?_
      intro id row next found after
      rcases admin.get_apply_cases before.table id with
        same | gone | ⟨earlier, later, present, changed, _, _, attempt, _⟩
      · rw [same, found] at after
        cases after
        rfl
      · rw [gone] at after
        cases after
      · rw [changed] at after
        rw [found] at present
        cases after
        cases present
        exact attempt
    · exact .of_same rfl

end JobQueue.SqlQueue
