import JobQueue.SqlQueue.Succession

/-!
# Facts of the SQL queue follow durable settlement

A worker runs the deferred facts of a delivery, reports an archived job or
reports a failed settlement, depending on whether it learned that a fenced
statement of its claim changed the row. The attempt of a row counts the
settlements that decided for another attempt.
-/

namespace JobQueue.SqlQueue

open Interleaving
open Statement (Held)

variable {before world : World}

/-! ## Facts of a generation -/

/-- The driver learned that a settlement of the generation changed its row. -/
def World.Confirmed (world : World) (token : String) : Prop :=
  ∃ decision, (token, decision) ∈ world.confirmed

/-- `EventSettlementFailed` was emitted for the generation. -/
def World.FailureReported (world : World) (token : String) : Prop :=
  ∃ job error, .settlementFailed job error ∈ world.events ∧ job.processingToken = token

/-- Nothing was confirmed, reported or returned for the generation. -/
def World.Unsettled (world : World) (token : String) : Prop :=
  ¬world.Confirmed token ∧ ¬world.FailureReported token ∧ token ∉ world.returned

/-- The facts of two worlds agree on a generation. -/
structure World.SameFacts (before after : World) (token : String) : Prop where
  confirmed : ∀ decision, (token, decision) ∈ after.confirmed ↔ (token, decision) ∈ before.confirmed
  failed : after.FailureReported token ↔ before.FailureReported token
  returned : token ∈ after.returned ↔ token ∈ before.returned

theorem World.SameFacts.confirmed_iff (same : before.SameFacts world token) :
    world.Confirmed token ↔ before.Confirmed token :=
  exists_congr same.confirmed

theorem World.SameFacts.unsettled_iff (same : before.SameFacts world token) :
    world.Unsettled token ↔ before.Unsettled token := by
  rw [World.Unsettled, World.Unsettled, same.confirmed_iff, same.failed, same.returned]

/-- What is true of the generation of a worker in a phase. -/
def Phase.Facts : Phase -> World -> Prop
  | .polling, _ => True
  | .claimed job, world => world.Unsettled job.processingToken
  | .called job, world => world.Unsettled job.processingToken
  | .running job _, world => world.Unsettled job.processingToken
  | .settling job _ _, world => world.Unsettled job.processingToken
  | .failing job, world => world.Unsettled job.processingToken
  | .confirmed job result, world =>
    (job.processingToken, classifyAttempt job.deliveryAttempt result) ∈
      world.confirmed ∧ ¬world.FailureReported job.processingToken
  | .published job result, world =>
    (job.processingToken, classifyAttempt job.deliveryAttempt result) ∈
      world.confirmed ∧ ¬world.FailureReported job.processingToken
  | .ended token, world => (world.FailureReported token ↔ ¬world.Confirmed token)

/-- The generation a worker is about in a phase. -/
def Phase.token? : Phase -> Option String
  | .ended token => some token
  | phase => phase.job?.map DbJob.processingToken

variable {phase : Phase} {row : Row}

theorem Phase.Facts.keep (facts : phase.Facts before)
    (same : ∀ token, phase.token? = some token -> before.SameFacts world token) :
    phase.Facts world := by
  cases phase with
  | polling => trivial
  | claimed job => exact (same _ rfl).unsettled_iff.mpr facts
  | called job => exact (same _ rfl).unsettled_iff.mpr facts
  | running job committed => exact (same _ rfl).unsettled_iff.mpr facts
  | settling job result handled => exact (same _ rfl).unsettled_iff.mpr facts
  | failing job => exact (same _ rfl).unsettled_iff.mpr facts
  | confirmed job result =>
    have agree := same _ rfl
    exact ⟨(agree.confirmed _).mpr facts.1, fun failed => facts.2 (agree.failed.mp failed)⟩
  | published job result =>
    have agree := same _ rfl
    exact ⟨(agree.confirmed _).mpr facts.1, fun failed => facts.2 (agree.failed.mp failed)⟩
  | ended token =>
    have agree := same _ rfl
    simp only [Phase.Facts, agree.failed, agree.confirmed_iff]
    exact facts

/-- Facts follow settlement. -/
structure Factual (world : World) : Prop where
  confirmed : ∀ token decision, (token, decision) ∈ world.confirmed ->
    ∃ change ∈ world.changes, change.token = token ∧ change.decision = some decision
  committed : ∀ token ∈ world.committed, world.Confirmed token
  archived : ∀ job error, .processArchived job error ∈ world.events ->
    (job.processingToken, .failed) ∈ world.confirmed
  failed : ∀ token, world.FailureReported token -> ¬world.Confirmed token
  returned : ∀ token ∈ world.returned, (world.FailureReported token ↔ ¬world.Confirmed token)
  known : ∀ token, world.FailureReported token ∨ token ∈ world.returned ->
    ∃ claim ∈ world.claims, claim.job.processingToken = token
  outcomes : ∀ change ∈ world.changes, ∀ decision, change.decision = some decision ->
      ∃ job, Outcome job change.before decision (change.statement.change change.before)

theorem factual_start : Factual (World.start table nextId) where
  confirmed := by
    intro token decision member
    cases member
  committed := by
    intro token member
    cases member
  archived := by
    intro job error member
    cases member
  failed := by
    rintro token ⟨job, error, member, _⟩
    cases member
  returned := by
    intro token member
    cases member
  known := by
    rintro token (⟨job, error, member, _⟩ | member) <;> cases member
  outcomes := by
    intro change member
    cases member

/-- The facts that were established, and what each worker knows of its own. -/
def factsSettled : Assertions World Phase where
  shared := fun _ world => Factual world
  thread := fun label phase world =>
    phase.Facts world ∧
    ∀ token, phase.token? = some token -> ∃ claim ∈ world.claims, claim.label = label ∧
        claim.job.processingToken = token

/-! ## What operations do to facts -/

/-- Operations that establish no facts. -/
def Op.factless : Op -> Bool
  | .settle _ _ => false
  | .commit _ => false
  | .observe _ => false
  | _ => true

/-- The facts are the same as before. -/
structure World.SameLog (before after : World) : Prop where
  confirmed : after.confirmed = before.confirmed
  committed : after.committed = before.committed
  events : after.events = before.events
  returned : after.returned = before.returned

theorem exec_factless (factless : operation.factless = true)
    (executed : exec settings label before operation choice = some (some answer, world)) :
    before.SameLog world := by
  cases operation with
  | settle decision statement => cases factless
  | commit job => cases factless
  | observe event => cases factless
  | recoverStaleProcessing now =>
    rcases exec_recover executed with rfl | rfl <;> exact ⟨rfl, rfl, rfl, rfl⟩
  | claim now =>
    rcases exec_claim executed with
      ⟨rfl, _⟩ | ⟨_, _, _, _, _, _, _, rfl, _⟩ <;> exact ⟨rfl, rfl, rfl, rfl⟩
  | repair statement => rcases exec_repair executed with rfl | rfl <;> exact ⟨rfl, rfl, rfl, rfl⟩
  | reports job =>
    cases choice <;> cases executed
    constructor <;> split <;> rfl
  | now | lookup | result =>
    cases choice <;> cases executed
    exact ⟨rfl, rfl, rfl, rfl⟩

theorem exec_observe
    (executed : exec settings label before (.observe event) choice = some (some answer, world)) :
    world = { before with events := event :: before.events } := by
  cases choice <;> cases executed
  rfl

theorem exec_commit
    (executed : exec settings label before (.commit job) choice = some (some answer, world)) :
    world = { before with committed := job.processingToken :: before.committed } := by
  cases choice <;> cases executed
  rfl

theorem World.SameLog.sameFacts (same : before.SameLog world) : before.SameFacts world token where
  confirmed := fun _ => by rw [same.confirmed]
  failed := by
    rw [World.FailureReported, same.events, World.FailureReported]
  returned := by rw [same.returned]

theorem failureReported_observe
    (other : ∀ job error, event = .settlementFailed job error -> job.processingToken ≠ token) :
    World.FailureReported { before with events := event :: before.events }
        token ↔ before.FailureReported token := by
  constructor
  · rintro ⟨job, error, member, same⟩
    rcases List.mem_cons.mp member with rfl | earlier
    · exact absurd same (other job error rfl)
    · exact ⟨job, error, earlier, same⟩
  · rintro ⟨job, error, member, same⟩
    exact ⟨job, error, List.mem_cons_of_mem _ member, same⟩

/-- A worker establishes facts about its own generation only. -/
theorem sameFacts_operation (moved : WorkerMoves phase operation answer after)
    (executed : exec settings label before operation choice = some (some answer, world))
    (other : ∀ job, phase.job? = some job -> job.processingToken ≠ token) :
    before.SameFacts world token := by
  by_cases factless : operation.factless = true
  · exact (exec_factless factless executed).sameFacts
  · cases operation <;> try exact absurd rfl factless
    case settle decision statement =>
      obtain ⟨job, result, handled, rfl, settles⟩ := moved.settle_inv
      have different : statement.token ≠ token := (settles_of settles).2 ▸ other job rfl
      rcases exec_settle executed with ⟨_, rfl | rfl⟩ | ⟨_, _, rfl⟩
      · exact ⟨fun _ => Iff.rfl, Iff.rfl, Iff.rfl⟩
      · exact ⟨fun _ => Iff.rfl, Iff.rfl, Iff.rfl⟩
      · refine ⟨fun decided => ?_, Iff.rfl, Iff.rfl⟩
        rw [List.mem_cons]
        refine ⟨fun either => either.resolve_left ?_, .inr⟩
        rintro ⟨⟩
        exact different rfl
    case commit job =>
      rw [exec_commit executed]
      exact ⟨fun _ => Iff.rfl, Iff.rfl, Iff.rfl⟩
    case observe event =>
      rw [exec_observe executed]
      refine ⟨fun _ => Iff.rfl, failureReported_observe ?_, Iff.rfl⟩
      rintro job error rfl
      cases moved with
      | fails _ result handled => exact other job rfl
      | failsRepaired => exact other job rfl

/-! ## Facts are kept true -/

namespace Factual

/-- A world with the same facts, in which changes and claims were only added
and changes do what they decide. -/
theorem keep (factual : Factual before) (same : before.SameLog world)
    (changes : before.changes ⊆ world.changes)
    (claims : before.claims ⊆ world.claims)
    (outcomes : ∀ change ∈ world.changes, ∀ decision, change.decision = some decision ->
        ∃ job, Outcome job change.before decision (change.statement.change change.before)) :
    Factual world := by
  have failed_iff : ∀ token, world.FailureReported token ↔ before.FailureReported token :=
    fun token => same.sameFacts.failed
  have confirmed_iff : ∀ token, world.Confirmed token ↔ before.Confirmed token :=
    fun token => same.sameFacts.confirmed_iff
  constructor
  case confirmed =>
    rw [same.confirmed]
    intro token decision member
    obtain ⟨change, made, rest⟩ := factual.confirmed token decision member
    exact ⟨change, changes made, rest⟩
  case committed =>
    rw [same.committed]
    exact fun token member =>
      (confirmed_iff token).mpr (factual.committed token member)
  case archived =>
    rw [same.confirmed, same.events]
    exact factual.archived
  case failed =>
    intro token
    rw [failed_iff, confirmed_iff]
    exact factual.failed token
  case returned =>
    intro token
    rw [same.returned, failed_iff, confirmed_iff]
    exact factual.returned token
  case known =>
    intro token
    rw [failed_iff, same.returned]
    intro either
    obtain ⟨claim, made, token_eq⟩ := factual.known token either
    exact ⟨claim, claims made, token_eq⟩
  case outcomes => exact outcomes

/-- Executing a statement of a claim adds a change that does what it
decides. -/
theorem outcomes_execute (factual : Factual before)
    (outcome : ∀ decided, decision = some decided -> ∀ row,
      ∃ job, Outcome job row decided (statement.change row)) :
    ∀ change ∈ (before.execute decision statement).changes, ∀ decided,
      change.decision = some decided -> ∃ job,
      Outcome job change.before decided (change.statement.change change.before) := by
  rcases before.execute_cases decision with ⟨same, _⟩ | ⟨row, executed⟩
  · rw [same]
    exact factual.outcomes
  · rw [executed.changes]
    intro change member decided same
    rcases List.mem_cons.mp member with rfl | earlier
    · exact outcome decided same row
    · exact factual.outcomes change earlier decided same

theorem changes_execute (decision : Option AttemptDecision) :
    world.changes ⊆ (world.execute decision statement).changes :=
  List.subset_append_right _ _

/-- The driver learns that a settlement of the generation changed its row. -/
theorem confirm (factual : Factual before)
    (executed : before.Executed (some decision) statement row
      (before.execute (some decision) statement))
    (unsettled : before.Unsettled statement.token)
    (outcome : ∀ row, ∃ job, Outcome job row decision (statement.change row)) :
    Factual { before.execute (some decision) statement with
      confirmed := (statement.token, decision) :: before.confirmed } := by
  have stronger : ∀ token, before.Confirmed token ->
      World.Confirmed { before.execute (some decision) statement with
        confirmed := (statement.token, decision) :: before.confirmed }
        token := by
    rintro token ⟨decided, member⟩
    exact ⟨decided, List.mem_cons_of_mem _ member⟩
  have others : ∀ token, token ≠ statement.token ->
      (World.Confirmed { before.execute (some decision) statement with
        confirmed := (statement.token, decision) :: before.confirmed }
        token ↔ before.Confirmed token) := by
    refine fun token different => ⟨?_, stronger token⟩
    rintro ⟨decided, member⟩
    rcases List.mem_cons.mp member with same | earlier
    · cases same
      exact absurd rfl different
    · exact ⟨decided, earlier⟩
  constructor
  case confirmed =>
    intro token decided member
    rcases List.mem_cons.mp member with same | earlier
    · cases same
      refine ⟨⟨some decision, statement, row⟩, ?_, rfl, rfl⟩
      exact executed.changes ▸ List.mem_cons_self
    · obtain ⟨change, made, rest⟩ := factual.confirmed token decided earlier
      exact ⟨change, changes_execute (some decision) made, rest⟩
  case committed =>
    exact fun token member => stronger token (factual.committed token member)
  case archived =>
    exact fun job error member =>
      List.mem_cons_of_mem _ (factual.archived job error member)
  case failed =>
    intro token failed
    have different : token ≠ statement.token := by
      rintro rfl
      exact unsettled.2.1 failed
    rw [others token different]
    exact factual.failed token failed
  case returned =>
    intro token member
    have different : token ≠ statement.token := by
      rintro rfl
      exact unsettled.2.2 member
    rw [others token different]
    exact factual.returned token member
  case known => exact factual.known
  case outcomes =>
    refine factual.outcomes_execute ?_
    intro decided same
    cases same
    exact outcome

variable (factual : Factual before)
include factual

theorem commit (confirmed : before.Confirmed token) :
    Factual { before with committed := token :: before.committed } where
  confirmed := factual.confirmed
  committed := by
    intro other member
    rcases List.mem_cons.mp member with rfl | earlier
    · exact confirmed
    · exact factual.committed other earlier
  archived := factual.archived
  failed := factual.failed
  returned := factual.returned
  known := factual.known
  outcomes := factual.outcomes

/-- An event other than a failed settlement. -/
theorem observe (other : ∀ job error, event ≠ .settlementFailed job error)
    (archived : ∀ job error, event = .processArchived job error ->
      (job.processingToken, .failed) ∈ before.confirmed) :
    Factual { before with events := event :: before.events } := by
  have failed_iff : ∀ token, World.FailureReported { before with events := event :: before.events }
        token ↔ before.FailureReported token :=
    fun token => failureReported_observe fun job error same => absurd same (other job error)
  constructor
  case confirmed => exact factual.confirmed
  case committed => exact factual.committed
  case archived =>
    intro job error member
    rcases List.mem_cons.mp member with same | earlier
    · exact archived job error same.symm
    · exact factual.archived job error earlier
  case failed =>
    intro token
    rw [failed_iff]
    exact factual.failed token
  case returned =>
    intro token
    rw [failed_iff]
    exact factual.returned token
  case known =>
    intro token
    rw [failed_iff]
    exact factual.known token
  case outcomes => exact factual.outcomes

/-- A failed settlement is reported for a generation without facts. -/
theorem fail (unsettled : before.Unsettled job.processingToken)
    (claimed : ∃ claim ∈ before.claims, claim.job.processingToken = job.processingToken) :
    Factual { before with events := .settlementFailed job error :: before.events } := by
  have others : ∀ token, token ≠ job.processingToken -> (World.FailureReported { before with
        events := .settlementFailed job error :: before.events } token ↔
        before.FailureReported token) := by
    intro token different
    refine failureReported_observe ?_
    rintro _ _ ⟨⟩
    exact different.symm
  constructor
  case confirmed => exact factual.confirmed
  case committed => exact factual.committed
  case archived =>
    intro archivedJob archivedError member
    rcases List.mem_cons.mp member with same | earlier
    · cases same
    · exact factual.archived archivedJob archivedError earlier
  case failed =>
    intro token failed
    by_cases same : token = job.processingToken
    · subst same
      exact unsettled.1
    · exact factual.failed token ((others token same).mp failed)
  case returned =>
    intro token member
    have different : token ≠ job.processingToken := by
      rintro rfl
      exact unsettled.2.2 member
    rw [others token different]
    exact factual.returned token member
  case known =>
    intro token either
    by_cases same : token = job.processingToken
    · subst same
      exact claimed
    · rw [others token same] at either
      exact factual.known token either
  case outcomes => exact factual.outcomes

/-- A round of a worker ends. -/
theorem finish
    (resolved : ∀ token, result = some token ->
      (before.FailureReported token ↔ ¬before.Confirmed token) ∧
      ∃ claim ∈ before.claims, claim.job.processingToken = token) :
    Factual { before with returned := result.toList ++ before.returned } where
  confirmed := factual.confirmed
  committed := factual.committed
  archived := factual.archived
  failed := factual.failed
  returned := by
    intro token member
    rcases List.mem_append.mp member with new | earlier
    · exact (resolved token (Option.mem_toList.mp new)).1
    · exact factual.returned token earlier
  known := by
    rintro token (failed | member)
    · exact factual.known token (.inl failed)
    · rcases List.mem_append.mp member with new | earlier
      · exact (resolved token (Option.mem_toList.mp new)).2
      · exact factual.known token (.inr earlier)
  outcomes := factual.outcomes

end Factual

/-- Facts after an operation of a worker. -/
theorem factual_operation (fenced : Fenced before) (linked : Linked before)
    (factual : Factual before) (known : claimsFenced.thread label phase before)
    (facts : phase.Facts before) (moved : WorkerMoves phase operation answer after)
    (executed : exec settings label before operation choice = some (some answer, world)) :
    Factual world := by
  have supersedes := (effect_operation moved executed).supersedes
  by_cases quiet : operation.quiet = true ∧ operation.factless = true
  · have same := exec_quiet quiet.1 executed
    refine factual.keep (exec_factless quiet.2 executed)
      (fun _ => same.changes ▸ id) supersedes.1 ?_
    rw [same.changes]
    exact factual.outcomes
  · cases operation <;> try exact absurd ⟨rfl, rfl⟩ quiet
    case recoverStaleProcessing now =>
      rcases exec_recover executed with rfl | rfl
      · exact factual
      · exact factual.keep ⟨rfl, rfl, rfl, rfl⟩ (List.Subset.refl _)
          (List.Subset.refl _) factual.outcomes
    case claim now =>
      rcases exec_claim executed with ⟨rfl, _⟩ | ⟨_, _, _, _, _, _, _, rfl, _⟩
      · exact factual
      · exact factual.keep ⟨rfl, rfl, rfl, rfl⟩ (List.Subset.refl _) supersedes.1 factual.outcomes
    case settle decision statement =>
      obtain ⟨job, result, handled, rfl, settles⟩ := moved.settle_inv
      have claimed := known job rfl
      have outcome : ∀ row, ∃ job, Outcome job row decision (statement.change row) := fun row =>
        ⟨job, settles.outcome (linked.proved_of_claimed claimed) (fenced.valid _ claimed) row⟩
      rcases exec_settle executed with ⟨_, rfl | rfl⟩ | ⟨_, single, rfl⟩
      · exact factual
      · refine factual.keep ⟨rfl, rfl, rfl, rfl⟩ (Factual.changes_execute _) (List.Subset.refl _)
          (factual.outcomes_execute ?_)
        rintro decided ⟨⟩
        exact outcome
      · obtain ⟨row, changed⟩ := World.executed_of_affected (some decision) single
        exact factual.confirm changed ((settles_of settles).2 ▸ facts) outcome
    case repair statement =>
      rcases exec_repair executed with rfl | rfl
      · exact factual
      · refine factual.keep ⟨rfl, rfl, rfl, rfl⟩ (Factual.changes_execute _) (List.Subset.refl _)
          (factual.outcomes_execute ?_)
        rintro decided ⟨⟩
    case commit job =>
      rw [exec_commit executed]
      cases moved with
      | commits _ result => exact factual.commit ⟨_, facts.1⟩
    case observe event =>
      rw [exec_observe executed]
      cases moved with
      | observes => exact factual.observe (by simp) (by simp)
      | fails job result handled error => exact factual.fail facts ⟨_, known job rfl, rfl⟩
      | failsRepaired job error => exact factual.fail facts ⟨_, known job rfl, rfl⟩
      | @archives job error failed =>
        refine factual.observe (by simp) ?_
        rintro _ _ ⟨⟩
        exact failed ▸ facts.1

/-- What a worker knows of the facts of its generation after an operation. -/
theorem facts_operation (fenced : Fenced before) (factual : Factual before)
    (facts : phase.Facts before) (moved : WorkerMoves phase operation answer after)
    (executed : exec settings label before operation choice = some (some answer, world)) :
    after.Facts world := by
  have keeps : operation.factless = true -> ∀ token,
      before.SameFacts world token := fun factless token =>
    (exec_factless factless executed).sameFacts
  cases moved with
  | now phase time => exact facts.keep fun token _ => keeps rfl token
  | recovers now result => trivial
  | observes => trivial
  | claimless now unclaimed => trivial
  | claims now job =>
    rcases exec_claim executed with ⟨_, unclaimed⟩ | ⟨id, row, token, _, _, _, fresh, rfl, made⟩
    · exact absurd rfl (unclaimed job)
    · cases made job rfl
      have unknown : ¬∃ claim ∈ before.claims, claim.job.processingToken = token := by
        rintro ⟨claim, earlier, same⟩
        exact fresh claim earlier same
      refine ⟨?_, fun failed => unknown (factual.known token (.inl failed)),
        fun member => unknown (factual.known token (.inr member))⟩
      rintro ⟨decision, member⟩
      obtain ⟨change, changed, same, _⟩ := factual.confirmed token decision member
      obtain ⟨_, claim, earlier, of, _⟩ := fenced.changed change changed
      exact unknown ⟨claim, earlier, of.2.symm.trans same⟩
  | missing job => exact (keeps rfl _).unsettled_iff.mpr facts
  | found job => exact (keeps rfl _).unsettled_iff.mpr facts
  | reports job committed => exact (keeps rfl _).unsettled_iff.mpr facts
  | result job committed result => exact (keeps rfl _).unsettled_iff.mpr facts
  | repairs result handled answer repairs => exact (keeps rfl _).unsettled_iff.mpr facts
  | settles handled settles unconfirmed =>
    rcases exec_settle executed with ⟨_, rfl | rfl⟩ | ⟨same, _⟩
    · exact facts
    · exact facts
    · rw [same] at unconfirmed
      exact absurd rfl unconfirmed
  | @confirms job result handled decision statement settles =>
    rcases exec_settle executed with ⟨unconfirmed, _⟩ | ⟨_, single, rfl⟩
    · exact absurd rfl unconfirmed
    · have settled : (job.processingToken, classifyAttempt job.deliveryAttempt result) ∈
            (statement.token, decision) :: before.confirmed := by
        rw [(settles_of settles).2]
        cases settles <;> exact List.mem_cons_self
      cases handled <;> exact ⟨settled, facts.2.1⟩
  | fails job result handled error =>
    rw [exec_observe executed]
    exact ⟨fun _ => facts.1, fun _ => ⟨job, error, List.mem_cons_self, rfl⟩⟩
  | failsRepaired job error =>
    rw [exec_observe executed]
    exact ⟨fun _ => facts.1, fun _ => ⟨job, error, List.mem_cons_self, rfl⟩⟩
  | commits job result =>
    rw [exec_commit executed]
    exact facts
  | @archives job error failed =>
    rw [exec_observe executed]
    have unreported : ¬World.FailureReported { before with
        events := .processArchived job error :: before.events }
        job.processingToken := by
      rw [failureReported_observe (by simp)]
      exact facts.2
    exact ⟨fun reported => absurd reported unreported,
      fun unconfirmed => absurd ⟨_, facts.1⟩ unconfirmed⟩

/-- A worker stays with its generation. -/
theorem WorkerMoves.token?_after (moved : WorkerMoves phase operation answer after)
    (about : after.token? = some token) :
    (∃ job, phase = .polling ∧ after = .claimed job ∧ job.processingToken = token) ∨
    phase.token? = some token := by
  cases moved with
  | claims now job => exact .inl ⟨job, rfl, rfl, Option.some.inj about⟩
  | now phase time => exact .inr about
  | confirms handled settles => cases handled <;> exact .inr about
  | _ => exact .inr about

/-- A round ends with its generation settled or reported as failed. -/
theorem resolved_of_stop (stops : WorkerStop phase (some token)) (facts : phase.Facts world) :
    phase.token? = some token ∧ (world.FailureReported token ↔ ¬world.Confirmed token) := by
  cases phase with
  | published job result =>
    cases stops
    exact ⟨rfl, fun failed => absurd failed facts.2,
      fun unconfirmed => absurd ⟨_, facts.1⟩ unconfirmed⟩
  | ended settled =>
    cases stops
    exact ⟨rfl, facts⟩
  | _ => exact stops.elim

theorem factsSettled_kept :
    tokenHistory.KeptOver factsSettled (queue settings) .always workerProtocol where
  operation := by
    intro bound label phase after before world operation answer choice _
      shared known moved executed _
    obtain ⟨⟨fenced, linked⟩, factual⟩ := shared
    obtain ⟨⟨jobs, _⟩, facts, owns⟩ := known
    have subset := (effect_operation moved executed).supersedes.1
    refine ⟨factual_operation fenced linked factual jobs facts moved executed,
      ⟨facts_operation fenced factual facts moved executed, ?_⟩, ?_⟩
    · intro token about
      rcases moved.token?_after about with ⟨job, rfl, rfl, same⟩ | earlier
      · exact ⟨_, claimed_of_moved moved executed, rfl, same⟩
      · obtain ⟨claim, made, rest⟩ := owns token earlier
        exact ⟨claim, subset made, rest⟩
    · rintro other phase' _ different base ⟨otherFacts, otherOwns⟩
      refine ⟨otherFacts.keep ?_, ?_⟩
      · intro token about
        refine sameFacts_operation moved executed ?_
        intro job holds same
        obtain ⟨claim, made, claim_label, claim_token⟩ := otherOwns token about
        have one := fenced.claim_unique (jobs job holds) made (same.trans claim_token.symm)
        exact different (claim_label.symm.trans (congrArg Claim.label one).symm)
      · intro token about
        obtain ⟨claim, made, rest⟩ := otherOwns token about
        exact ⟨claim, subset made, rest⟩
  blocked := fun _ _ executed => absurd executed exec_answers
  finished := by
    intro bound label phase before world result _ shared known stops settled
    obtain ⟨⟨fenced, linked⟩, factual⟩ := shared
    obtain ⟨⟨jobs, _⟩, facts, owns⟩ := known
    cases settled
    refine ⟨factual.finish ?_, ?_⟩
    · rintro token rfl
      obtain ⟨own, resolved⟩ := resolved_of_stop stops facts
      obtain ⟨claim, made, _, token_eq⟩ := owns token own
      exact ⟨resolved, claim, made, token_eq⟩
    · rintro other phase' _ different base ⟨otherFacts, otherOwns⟩
      refine ⟨otherFacts.keep ?_, otherOwns⟩
      intro token about
      refine ⟨fun _ => Iff.rfl, Iff.rfl, ?_⟩
      rw [List.mem_append]
      refine ⟨fun either => either.resolve_left ?_, .inr⟩
      intro member
      have same := Option.mem_toList.mp member
      subst same
      have own := (resolved_of_stop stops facts).1
      obtain ⟨mine, mineMade, mine_label, mine_token⟩ := owns token own
      obtain ⟨claim, made, claim_label, claim_token⟩ := otherOwns token about
      have one := fenced.claim_unique mineMade made (mine_token.trans claim_token.symm)
      exact different (claim_label.symm.trans ((congrArg Claim.label one).symm.trans mine_label))
  idle := by
    intro bound before world move shared moved _
    have same : before.SameLog world ∧ world.changes = before.changes ∧
        world.claims = before.claims := by
      cases move <;> cases moved <;> exact ⟨⟨rfl, rfl, rfl, rfl⟩, rfl, rfl⟩
    obtain ⟨log, changes, claims⟩ := same
    refine ⟨shared.2.keep log (fun _ => changes ▸ id) (fun _ => claims ▸ id)
      (changes ▸ shared.2.outcomes), ?_⟩
    rintro other phase' _ _ _ ⟨otherFacts, otherOwns⟩
    exact ⟨otherFacts.keep fun token _ => log.sameFacts, claims ▸ otherOwns⟩
  started := by
    intro bound before world move program phase shared moved _ entered
    cases entered
    cases move <;> cases moved
    exact ⟨shared.2, ⟨trivial, by rintro token ⟨⟩⟩, fun _ _ _ _ _ known => known⟩

/-! ## The attempt counts retries -/

/-- `AttemptRetry` settlements of a row that were executed. -/
def World.retries (world : World) (id : Int) : Nat :=
  world.changes.countP fun change =>
    change.statement.id = id && change.decision = some .retry

/-- One for a dead row. -/
def Row.death (row : Row) : Int := if row.state = .dead then 1 else 0

/-- Rows dispatched from an id on count their retries. -/
structure Counted (first : Int) (world : World) : Prop where
  attempt : ∀ id row, first ≤ id -> world.table.get id = some row ->
    row.attempt = world.retries id + row.death
  budget : ∀ id row, first ≤ id -> world.table.get id = some row ->
    0 ≤ row.maxRetry -> row.attempt ≤ row.maxRetry + row.death
  ids : ∀ change ∈ world.changes, change.statement.id < world.nextId

/-- The row has the same attempt, budget and death as another. -/
structure Row.SameAttempt (row later : Row) : Prop where
  attempt : later.attempt = row.attempt
  maxRetry : later.maxRetry = row.maxRetry
  death : later.death = row.death

theorem Row.death_of_ne (alive : row.state ≠ .dead) : row.death = 0 := if_neg alive

namespace Counted

variable (counted : Counted first before)
include counted

theorem keep (changes : world.changes = before.changes) (grows : before.nextId ≤ world.nextId)
    (rows : ∀ id later, world.table.get id = some later ->
      ∃ row, before.table.get id = some row ∧ row.SameAttempt later) :
    Counted first world := by
  have retries : ∀ id, world.retries id = before.retries id := by
    intro id
    rw [World.retries, changes, World.retries]
  constructor
  case attempt =>
    intro id later tracked found
    obtain ⟨row, present, same⟩ := rows id later found
    rw [same.attempt, same.death, retries]
    exact counted.attempt id row tracked present
  case budget =>
    intro id later tracked found
    obtain ⟨row, present, same⟩ := rows id later found
    rw [same.attempt, same.death, same.maxRetry]
    exact counted.budget id row tracked present
  case ids =>
    rw [changes]
    exact fun change member =>
      Int.lt_of_lt_of_le (counted.ids change member) grows

theorem sameRows (same : before.SameRows world) : Counted first world := by
  refine counted.keep same.changes (Int.le_of_eq same.nextId.symm) ?_
  intro id later found
  exact ⟨later, same.table ▸ found, rfl, rfl, rfl⟩

theorem recover :
    Counted first { before with table := recoverStaleProcessing settings now before.table } := by
  refine counted.keep rfl (Int.le_refl _) ?_
  intro id later found
  simp only [get_recoverStaleProcessing] at found
  obtain ⟨row, present, same⟩ := Option.map_eq_some_iff.mp found
  refine ⟨row, present, ?_⟩
  split at same
  · rename_i stale
    have processing := Row.processing_of_stale stale
    subst same
    exact ⟨rfl, rfl, by simp [Row.death, Row.recover, processing]⟩
  · subst same
    exact ⟨rfl, rfl, rfl⟩

theorem claim {id : Int} (found : before.table.get id = some row)
    (claimable : row.claimable settings now = true) :
    Counted first (before.claim label id now row token) := by
  have pending := Row.pending_of_claimable claimable
  refine counted.keep rfl (Int.le_refl _) ?_
  intro other later present
  simp only [World.claim] at present
  rw [get_claimRow found pending] at present
  split at present
  · rename_i same
    cases present
    exact ⟨row, same ▸ found, rfl, rfl, by simp [Row.death, Row.claim, pending]⟩
  · exact ⟨later, present, rfl, rfl, rfl⟩

theorem dispatch (fenced : Fenced before) (state : row.state = .pending)
    (attempt : row.attempt = 0) :
    Counted first { before with
      table := before.table.insert before.nextId row
      nextId := before.nextId + 1 } := by
  have alive : row.death = 0 := Row.death_of_ne (by simp [state])
  constructor
  case attempt =>
    intro id later tracked found
    rw [KeyedTable.get_insert _ fenced.get_nextId] at found
    split at found
    · rename_i same
      cases found
      have none_yet : before.retries before.nextId = 0 := by
        refine List.countP_eq_zero.mpr ?_
        intro change member selected
        have bounded := counted.ids change member
        simp only [Bool.and_eq_true, decide_eq_true_eq] at selected
        omega
      change row.attempt = before.retries id + row.death
      rw [same, none_yet, attempt, alive]
      rfl
    · exact counted.attempt id later tracked found
  case budget =>
    intro id later tracked found allowed
    rw [KeyedTable.get_insert _ fenced.get_nextId] at found
    split at found
    · cases found
      omega
    · exact counted.budget id later tracked found allowed
  case ids =>
    intro change member
    have bounded := counted.ids change member
    simp only
    omega

/-- What a statement does to the attempt and the count of its row. -/
theorem executed (fenced : Fenced before) (linked : Linked before)
    (claimed : before.Claimed label job) (writes : Writes job decision statement)
    (executed : before.Executed decision statement row world) :
    Counted first world := by
  have own : ∀ next, statement.change row = some next -> next.maxRetry = row.maxRetry ∧
      next.attempt = row.attempt + (if decision = some .retry then 1 else 0) + next.death ∧
      (decision = some .retry -> row.attempt < row.maxRetry) := by
    intro next changed
    obtain ⟨maxRetry, continues⟩ := writes.continues fenced linked claimed executed changed
    refine ⟨maxRetry, ?_⟩
    cases continues with
    | keeps state attempt link undecided =>
      rcases undecided with rfl | rfl <;> simp [Row.death, state, attempt]
    | retries state attempt cleared budget => simp [Row.death, state, attempt, budget]
    | dies state attempt => simp [Row.death, state, attempt]
  have alive : row.death = 0 := by
    have held := (Statement.held_of_selects executed.selected).2
    exact Row.death_of_ne (by simp [held.1])
  have retries : ∀ id, world.retries id = before.retries id +
      (if statement.id = id ∧ decision = some .retry then 1 else 0) := by
    intro id
    rw [World.retries, executed.changes, List.countP_cons, World.retries]
    simp
  constructor
  case attempt =>
    intro id later tracked found
    rw [retries]
    by_cases same : id = statement.id
    · subst same
      rw [executed.own] at found
      obtain ⟨_, attempt, _⟩ := own later found
      have counts := counted.attempt _ row tracked executed.found
      by_cases retried : decision = some .retry
      · simp only [retried, and_self, if_true] at attempt ⊢
        push_cast
        omega
      · simp only [retried, and_false, if_false] at attempt ⊢
        push_cast
        omega
    · rw [executed.others id same] at found
      simp only [Ne.symm same, false_and, if_false]
      exact counted.attempt id later tracked found
  case budget =>
    intro id later tracked found allowed
    by_cases same : id = statement.id
    · subst same
      rw [executed.own] at found
      obtain ⟨maxRetry, attempt, spare⟩ := own later found
      rw [maxRetry] at allowed ⊢
      have bounded := counted.budget _ row tracked executed.found allowed
      by_cases retried : decision = some .retry
      · have room := spare retried
        simp only [retried, if_true] at attempt
        omega
      · simp only [retried, if_false] at attempt
        omega
    · rw [executed.others id same] at found
      exact counted.budget id later tracked found allowed
  case ids =>
    rw [executed.changes, executed.nextId]
    intro change member
    rcases List.mem_cons.mp member with rfl | earlier
    · exact (fenced.ids _ _ executed.found).2
    · exact counted.ids change earlier

end Counted

/-- Rows dispatched during the run count their retries. -/
def attemptsCounted (first : Int) : Assertions World Phase where
  shared := fun _ world => Counted first world
  thread := fun _ _ _ => True

theorem counted_start (table : Table) (unclaimed : Unclaimed table nextId) :
    Counted nextId (World.start table nextId) where
  attempt := by
    intro id row tracked found
    have bounded := (unclaimed.ids id row found).2
    omega
  budget := by
    intro id row tracked found
    have bounded := (unclaimed.ids id row found).2
    omega
  ids := by
    intro change member
    cases member

theorem Effect.counted (effect : Effect settings label before phase world) (fenced : Fenced before)
    (linked : Linked before) (counted : Counted first before)
    (known : claimsFenced.thread label phase before) :
    Counted first world := by
  cases effect with
  | same same => exact counted.sameRows same
  | recover now => exact counted.recover
  | claim found claimable => exact counted.claim found claimable
  | write writes executed => exact counted.executed fenced linked (known _ rfl) writes executed

theorem attemptsCounted_kept (first : Int) :
    tokenHistory.KeptOver (attemptsCounted first) (queue settings) unattended workerProtocol where
  operation := fun _ shared known moved executed _ =>
    ⟨(effect_operation moved executed).counted shared.1.1 shared.1.2 shared.2
      known.1.1, trivial, fun _ _ _ _ _ _ => trivial⟩
  blocked := fun _ _ executed => absurd executed exec_answers
  finished := by
    intro bound label phase before world result _ shared _ _ settled
    cases settled
    exact ⟨shared.2.sameRows ⟨rfl, rfl, rfl, rfl⟩, fun _ _ _ _ _ _ => trivial⟩
  idle := by
    intro bound before world move shared moved allowed
    cases move <;> cases moved
    · exact ⟨shared.2.dispatch shared.1.1 rfl rfl, fun _ _ _ _ _ _ => trivial⟩
    · exact absurd rfl (allowed _)
  started := by
    intro bound before world move program phase shared moved _ _
    cases move <;> cases moved
    exact ⟨shared.2, trivial, fun _ _ _ _ _ _ => trivial⟩

/-! ## Facts and attempts of the queue -/

/-- Operations that leave attempts alone. -/
def Op.keepsAttempt : Op -> Bool
  | .recoverStaleProcessing _ => true
  | .repair _ => true
  | .settle .redeliver _ => true
  | _ => false

theorem World.Executed.attempts (executed : before.Executed decision statement row world)
    (own : ∃ next, statement.change row = some next ∧ next.attempt = row.attempt)
    {id : Int} (found : before.table.get id = some earlier) :
    ∃ later, world.table.get id = some later ∧ later.attempt = earlier.attempt := by
  by_cases same : id = statement.id
  · subst same
    rw [executed.found] at found
    cases found
    obtain ⟨next, changed, attempt⟩ := own
    exact ⟨next, executed.own.trans changed, attempt⟩
  · exact ⟨earlier, (executed.others id same).trans found, rfl⟩

/-- Stale recovery, repairs and redelivery keep every row and its attempt. -/
theorem attempts_operation (fenced : Fenced before) (linked : Linked before)
    (known : claimsFenced.thread label phase before)
    (moved : WorkerMoves phase operation answer after)
    (executed : exec settings label before operation choice = some (some answer, world))
    (keeps : operation.keepsAttempt = true) {id : Int} (found : before.table.get id = some row) :
    ∃ later, world.table.get id = some later ∧ later.attempt = row.attempt := by
  cases operation <;> try cases keeps
  case recoverStaleProcessing now =>
    rcases exec_recover executed with rfl | rfl
    · exact ⟨row, found, rfl⟩
    · have after := get_recoverStaleProcessing settings now before.table id
      rw [found] at after
      exact ⟨_, after, (attempt_recover found after).1⟩
  case repair statement =>
    obtain ⟨job, result, handled, rfl, repairs⟩ := moved.repair_inv
    rcases exec_repair executed with rfl | rfl
    · exact ⟨row, found, rfl⟩
    · rcases before.execute_cases none with ⟨same, _⟩ | ⟨earlier, changed⟩
      · rw [same]
        exact ⟨row, found, rfl⟩
      · obtain ⟨next, next_eq, _, attempt, _⟩ := repairs.outcome earlier
        exact changed.attempts ⟨next, next_eq, attempt⟩ found
  case settle decision statement =>
    obtain ⟨job, result, handled, rfl, settles⟩ := moved.settle_inv
    have claimed := known job rfl
    have settled : ∃ later, (before.execute (some decision) statement).table.get id =
          some later ∧ later.attempt = row.attempt := by
      rcases before.execute_cases (some decision) with ⟨same, _⟩ | ⟨earlier, changed⟩
      · rw [same]
        exact ⟨row, found, rfl⟩
      · have attempt := (fenced.executed_job claimed (settles_of settles) changed).1
        have outcome := settles.outcome (linked.proved_of_claimed claimed)
          (fenced.valid _ claimed) earlier
        refine changed.attempts ?_ found
        cases decision with
        | redeliver =>
          generalize statement.change earlier = next at outcome
          cases outcome with
          | redeliver _ same => exact ⟨_, rfl, same.trans attempt⟩
        | succeeded => cases keeps
        | retry => cases keeps
        | failed => cases keeps
    rcases exec_settle executed with ⟨_, rfl | rfl⟩ | ⟨_, _, rfl⟩
    · exact ⟨row, found, rfl⟩
    · exact settled
    · exact settled

/-- Deferred facts are run only for a generation of which exactly one fenced
settlement changed its row; a job is reported as archived only if that
settlement moved the row to the dead ones; a failed settlement is reported for
exactly the rounds that learned of no settlement; and stale recovery, repairs
and redelivery keep the attempt of every row. Without administration, the
attempt of a row dispatched during the run counts its retries and its death and
never passes the budget by more than one. -/
theorem facts_follow_settlement
    {table : Table} {nextId : Int} (unclaimed : Unclaimed table nextId) :
    (∀ config, (queue settings).Reaches .always (.initial (.start table nextId)) config ->
      (∀ token ∈ config.world.committed, ∃ change ∈ config.world.changes, change.token = token ∧
          Held token change.before ∧
          (∃ decision, change.decision = some decision ∧
            (token, decision) ∈ config.world.confirmed) ∧
          ∀ other ∈ config.world.changes, other.token = token -> other = change) ∧
      (∀ job error, .processArchived job error ∈ config.world.events ->
        ∃ change ∈ config.world.changes, change.token = job.processingToken ∧
          change.decision = some .failed ∧
          (job.processingToken, .failed) ∈ config.world.confirmed ∧
          ∃ next, change.statement.change change.before = some next ∧ next.state = .dead) ∧
      (∀ token, config.world.FailureReported token -> ¬config.world.Confirmed token) ∧
      (∀ token ∈ config.world.returned, (config.world.FailureReported token ↔
          ¬config.world.Confirmed token)) ∧
      ∀ label operation continuation choice answer world,
        KeyedList.find label config.threads = some (.call operation continuation) ->
        exec settings label config.world operation choice = some (some answer, world) ->
        operation.keepsAttempt = true ->
        ∀ id row, config.world.table.get id = some row ->
          ∃ later, world.table.get id = some later ∧ later.attempt = row.attempt) ∧
    ∀ config, (queue settings).Reaches unattended (.initial (.start table nextId)) config ->
      ∀ id row, nextId ≤ id -> config.world.table.get id = some row ->
      row.attempt = config.world.retries id + (if row.state = .dead then 1 else 0) ∧
      (0 ≤ row.maxRetry -> row.attempt ≤ row.maxRetry + 1) := by
  refine ⟨?_, ?_⟩
  · intro config reached
    have initial : (tokenHistory.and factsSettled).Hold workerProtocol
        (Config.initial (World.start table nextId)) :=
      .initial ⟨⟨unclaimed.fenced, unclaimed.linked⟩, factual_start⟩
    have hold := initial.reaches governs
      ((tokenHistory_kept settings).over factsSettled_kept) reached
    obtain ⟨⟨fenced, linked⟩, factual⟩ := hold.shared
    refine ⟨?_, ?_, factual.failed, factual.returned, ?_⟩
    · intro token member
      obtain ⟨decision, confirmed⟩ := factual.committed token member
      obtain ⟨change, made, same, decided⟩ := factual.confirmed token decision confirmed
      refine ⟨change, made, same, same ▸ (fenced.changed change made).1,
        ⟨decision, decided, confirmed⟩, ?_⟩
      exact fun other otherMade otherSame =>
        List.inj_on_of_nodup_map fenced.once otherMade made (otherSame.trans same.symm)
    · intro job error member
      have confirmed := factual.archived job error member
      obtain ⟨change, made, same, decided⟩ := factual.confirmed _ _ confirmed
      refine ⟨change, made, same, decided, confirmed, ?_⟩
      obtain ⟨settled, outcome⟩ := factual.outcomes change made .failed decided
      generalize change.statement.change change.before = next at outcome
      cases outcome with
      | failed state => exact ⟨_, rfl, state⟩
    · intro label operation continuation choice answer world running executed keeps id row found
      obtain ⟨_, phase, follows, known⟩ := hold.thread _ _ running
      obtain ⟨after, moved, _⟩ := follows answer
      exact attempts_operation fenced linked known.1.1 moved executed keeps found
  · intro config reached id row tracked found
    have initial : (tokenHistory.and (attemptsCounted nextId)).Hold
        workerProtocol (Config.initial (World.start table nextId)) :=
      .initial ⟨⟨unclaimed.fenced, unclaimed.linked⟩, counted_start table unclaimed⟩
    have kept := ((tokenHistory_kept settings).restrict).over (attemptsCounted_kept nextId)
    have counted := (initial.reaches governs kept reached).shared.2
    have attempt := counted.attempt id row tracked found
    refine ⟨attempt, fun allowed => ?_⟩
    have bounded := counted.budget id row tracked found allowed
    have death : row.death ≤ 1 := by
      unfold Row.death
      split <;> omega
    omega

/-- A job fails permanently and the settlement is confirmed. -/
def failsPermanently : List (Action Choice Move) :=
  [.external dispatchEmail, .external .poll] ++
  perform 0 [.time 0, .execution .reported, .claim 1 (List.replicate 16 0) none, .registered true,
    .reports false, .result (some (.permanent (.text "bad address"))), .time 0,
    .execution .reported, .unit, .unit, .unit]

/-- Its facts are run, it is reported as archived and its row is dead. -/
theorem facts_follow_settlement_permanent_failure :
    ∃ config, (queue sqliteSettings).Reaches unattended (.initial (.start .empty 1)) config ∧
      config.world.committed = [tokenOf 0] ∧ config.world.returned = [tokenOf 0] ∧ ∃ row,
      config.world.table.get 1 = some row ∧ row.state = .dead ∧
      row.attempt = config.world.retries 1 + 1 := by
  obtain ⟨config, reached, committed, returned, dead⟩ :
      ∃ config, (queue sqliteSettings).Reaches unattended (.initial (.start .empty 1)) config ∧
        config.world.committed = [tokenOf 0] ∧ config.world.returned = [tokenOf 0] ∧
        (config.world.table.get 1).map Row.state = some .dead :=
    Machine.Reaches.of_decide failsPermanently (by decide +kernel)
  obtain ⟨row, found, state⟩ := Option.map_eq_some_iff.mp dead
  refine ⟨config, reached, committed, returned, row, found, state, ?_⟩
  have counts := ((facts_follow_settlement unclaimed_empty).2 config reached 1
    row (by decide) found).1
  rwa [if_pos state] at counts

end JobQueue.SqlQueue
