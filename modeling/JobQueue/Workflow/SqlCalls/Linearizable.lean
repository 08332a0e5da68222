import JobQueue.Workflow.SqlCalls.Calls
import JobQueue.Workflow.Store.SqlReceipts

/-!
# Concurrent chain calls take effect one after another

However calls on one chain interleave and whatever answers are lost, the stored
chain is the effect of the committed transitions, no node has two of them, and
the receipts are exactly those of the transitions committed with a valid claim.
A call that reports a claim is the call that committed the transition.
-/

namespace JobQueue.Workflow.ChainCalls

open Interleaving

/-! ## Transactions -/

/-- A transaction leaves the database alone or installs what its body
committed. -/
theorem transact_cases {β : Type} (db : Database) (body : TxBody β) (fault : Option Fault) :
    (applied body fault = false ∧ (Statement.transact db body fault).2 = db ∧ ∀ result,
      (Statement.transact db body fault).1 = .finished result -> body = .rolledBack result) ∨
    (applied body fault = true ∧ ∃ result final, body = .committed result final ∧
      (Statement.transact db body fault).2 = final) := by
  cases body with
  | aborted error =>
    rcases fault with _ | _ | _ <;> exact .inl ⟨rfl, rfl, fun _ finished => by cases finished⟩
  | rolledBack result =>
    rcases fault with _ | _ | _
    · exact .inl ⟨rfl, rfl, fun _ finished => by cases finished; rfl⟩
    · exact .inl ⟨rfl, rfl, fun _ finished => by cases finished⟩
    · exact .inl ⟨rfl, rfl, fun _ finished => by cases finished⟩
  | committed result final =>
    rcases fault with _ | _ | ⟨error, _ | _⟩
    · exact .inr ⟨rfl, result, final, rfl, rfl⟩
    · exact .inl ⟨rfl, rfl, fun _ finished => by cases finished⟩
    · exact .inl ⟨rfl, rfl, fun _ finished => by cases finished⟩
    · exact .inr ⟨rfl, result, final, rfl, rfl⟩

/-- The key of the receipt of a node. -/
def receiptKey (chainID nodeID : String) : TransitionReceiptKey :=
  ⟨.chain, chainID, nodeID⟩

/-- What a committed transition does to the row of the chain. -/
inductive Advances (row next : ChainState) : BatchJobOutcome -> Prop
  | succeeded (moved : next.nextIndex = row.nextIndex + 1)
      (unfailed : next.failed = false) : Advances row next .succeeded
  | failed (unmoved : next.nextIndex = row.nextIndex)
      (failed : next.failed = true) : Advances row next .failed

/-- What a committed transition of a node leaves behind. -/
structure Commits (chainID nodeID : String) (nextIndex : Int) (outcome : BatchJobOutcome)
    (claim : TransitionClaim) (db final : Database) : Prop where
  rows : ∃ row next, db.chains chainID = some row ∧
    final.chains chainID = some next ∧ row.nextIndex = nextIndex ∧
    row.failed = false ∧ next.nodes = row.nodes ∧ Advances row next outcome
  receipt : claim.valid = true -> ∃ receipt,
    KeyedList.find (receiptKey chainID nodeID) final.transitionReceipts = some receipt ∧
    receipt.owner = claim ∧ receipt.outcome = outcome
  unreceipted : claim.valid = false -> final.transitionReceipts = db.transitionReceipts
  others : ∀ other, other ≠ receiptKey chainID nodeID ->
    KeyedList.find other final.transitionReceipts = KeyedList.find other db.transitionReceipts

variable {chainID nodeID : String} {db final : Database} {state : ChainState}

/-- The receipt part of a committed transition. -/
theorem commits_of_inserted {updated : Database}
    (inserted : updated.insertTransitionReceipt receipt = .ok (persisted, final))
    (key : receipt.key = receiptKey chainID nodeID)
    (receipts : updated.transitionReceipts = db.transitionReceipts)
    (rows : ∃ row next, db.chains chainID = some row ∧
      updated.chains chainID = some next ∧ row.nextIndex = nextIndex ∧
      row.failed = false ∧ next.nodes = row.nodes ∧
      Advances row next receipt.outcome) :
    Commits chainID nodeID nextIndex receipt.outcome receipt.owner db final := by
  rcases Database.insertTransitionReceipt_cases inserted with
    ⟨invalid, _, same⟩ | ⟨valid, row, _, agrees, same, found⟩
  · subst same
    refine ⟨rows, ?_, fun _ => receipts, fun _ _ => by rw [receipts]⟩
    intro valid
    rw [invalid] at valid
    cases valid
  · subst same
    refine ⟨rows, fun _ => ⟨row, ?_, ?_, ?_⟩, ?_, ?_⟩
    · rw [← key]
      exact found
    · rw [agrees]
    · rw [agrees]
    · intro invalid
      rw [valid] at invalid
      cases invalid
    · intro other different
      rw [← receipts]
      exact updated.find_insertedReceipts_of_ne (key ▸ different)

theorem commits_advanceChainBody
    (committed : db.advanceChainBody chainID nodeID state claim now = .committed result final) :
    Commits chainID nodeID state.nextIndex .succeeded claim db final := by
  unfold Database.advanceChainBody at committed
  split at committed
  · cases committed
  rename_i row unmoved
  obtain ⟨stored, same, _, unfailed⟩ := Database.chainUnmoved_eq_some unmoved
  dsimp only at committed
  split at committed
  · cases committed
  rename_i receipt after inserted
  cases committed
  exact commits_of_inserted inserted rfl rfl
    ⟨row, _, stored, Function.update_self .., same, unfailed, rfl, .succeeded rfl unfailed⟩

theorem commits_failChainBody
    (committed : db.failChainBody chainID nodeID state cause claim now = .committed result final) :
    Commits chainID nodeID state.nextIndex .failed claim db final := by
  unfold Database.failChainBody at committed
  split at committed
  · cases committed
  rename_i row unmoved
  obtain ⟨stored, same, _, unfailed⟩ := Database.chainUnmoved_eq_some unmoved
  dsimp only at committed
  split at committed
  · cases committed
  rename_i receipt after inserted
  cases committed
  exact commits_of_inserted inserted rfl rfl
    ⟨row, _, stored, Function.update_self .., same, unfailed, rfl, .failed rfl rfl⟩

/-- Only a chain that moved is left alone. -/
theorem rolledBack_advanceChainBody
    (lost : db.advanceChainBody chainID nodeID state claim now = .rolledBack result) :
    result = none := by
  unfold Database.advanceChainBody at lost
  split at lost
  · cases lost
    rfl
  · dsimp only at lost
    split at lost <;> cases lost

theorem rolledBack_failChainBody
    (lost : db.failChainBody chainID nodeID state cause claim now = .rolledBack result) :
    result = none := by
  unfold Database.failChainBody at lost
  split at lost
  · cases lost
    rfl
  · dsimp only at lost
    split at lost <;> cases lost

/-! ## The invariant -/

/-- The commit of a call. -/
def Call.commit (label : Nat) (call : Call) : Commit :=
  ⟨label, call.nodeID, call.outcome, call.claim⟩

/-- The stored chain is the effect of the committed transitions. -/
structure Effected (nodes : List ChainNode) (commits : List Commit)
    (state : ChainState) : Prop where
  unchanged : state.nodes = nodes
  positioned : ∀ commit ∈ commits, ∃ index, chainNodePosition nodes commit.nodeID = some index
  succeeded : ∀ {nodeID index}, chainNodePosition nodes nodeID = some index -> ((∃ commit ∈ commits,
    commit.nodeID = nodeID ∧ commit.outcome = .succeeded) ↔ (index : Int) < state.nextIndex)
  failed : ∀ {nodeID index}, chainNodePosition nodes nodeID = some index ->
    ((∃ commit ∈ commits, commit.nodeID = nodeID ∧ commit.outcome = .failed) ↔
      state.failed = true ∧ (index : Int) = state.nextIndex)
  outcomes : ∀ commit ∈ commits, commit.outcome = .succeeded ∨ commit.outcome = .failed

/-- Receipts are those of the transitions committed with a valid claim. -/
structure Receipted (chainID : String) (commits : List Commit) (db : Database) : Prop where
  committed : ∀ {nodeID receipt},
      KeyedList.find (receiptKey chainID nodeID) db.transitionReceipts = some receipt ->
      ∃ commit ∈ commits, commit.nodeID = nodeID ∧ commit.claim.valid = true ∧
      commit.claim = receipt.owner ∧ commit.outcome = receipt.outcome
  persisted : ∀ commit ∈ commits, commit.claim.valid = true -> ∃ receipt,
      KeyedList.find (receiptKey chainID commit.nodeID) db.transitionReceipts = some receipt ∧
      receipt.owner = commit.claim ∧ receipt.outcome = commit.outcome

/-- What holds of the world of the calls. -/
structure Sound (chainID : String) (nodes : List ChainNode) (bound : Nat)
    (world : World) : Prop where
  effected : ∃ state, world.db.chains chainID = some state ∧ Effected nodes world.commits state
  receipted : Receipted chainID world.commits world.db
  unique : ∀ first ∈ world.commits, ∀ second ∈ world.commits,
    first.nodeID = second.nodeID -> first = second
  called : ∀ commit ∈ world.commits, ∃ call, KeyedList.find commit.label world.calls = some call ∧
      call.commit commit.label = commit
  bounded : ∀ {label call}, KeyedList.find label world.calls = some call -> label < bound
  distinct : ∀ {label other call call'}, KeyedList.find label world.calls = some call ->
    KeyedList.find other world.calls = some call' ->
    call.claim.valid = true -> call.claim = call'.claim -> label = other
  returned : ∀ ended ∈ world.returned, KeyedList.find ended.label world.calls = some ended.call ∧
      (ended.result.claimedNow = true -> ended.call.commit ended.label ∈ world.commits)

/-- What holds of a call in a phase. -/
def Knows (nodes : List ChainNode) (label : Nat) (phase : Phase) (world : World) : Prop :=
  KeyedList.find label world.calls = some phase.call ∧ match phase with
    | .claiming call state => state.IsCurrent call.nodeID ∧ state.nodes = nodes
    | .seen call => call.commit label ∈ world.commits
    | .claimed call => call.commit label ∈ world.commits
    | _ => True

/-- The invariant of concurrent calls on a chain. -/
def callsSound (chainID : String) (nodes : List ChainNode) : Assertions World Phase where
  shared := Sound chainID nodes
  thread := Knows nodes

section Steps

variable {chainID : String} {nodes : List ChainNode} {bound label : Nat} {before world : World}

/-- What a call knows survives later calls and commits. -/
theorem Knows.mono (knows : Knows nodes label phase before)
    (calls : KeyedList.find label world.calls = KeyedList.find label before.calls)
    (commits : ∀ commit ∈ before.commits, commit ∈ world.commits) :
    Knows nodes label phase world := by
  refine ⟨calls.trans knows.1, ?_⟩
  have known := knows.2
  cases phase with
  | reading call => trivial
  | claiming call state => exact known
  | unsure call => trivial
  | seen call => exact commits _ known
  | claimed call => exact commits _ known

variable {operation : Op} {state : ChainState} {nextIndex : Int} {index : Nat}
  {commits : List Commit} {row : ChainState} {final : Database}

/-- A read changes nothing. -/
theorem exec_reads (reads : Reads chainID operation)
    (executed : exec label before operation fault = some (some answer, world)) :
    world = before := by
  cases reads with
  | selectChain => rcases fault with _ | _ | ⟨_, _ | _⟩ <;> cases executed <;> rfl
  | selectReceipt key => rcases fault with _ | _ | ⟨_, _ | _⟩ <;> cases executed <;> rfl

/-- A chain that was read is stored. -/
theorem exec_selectChain_ok
    (executed : exec label before (.sql (.selectChain chainID)) fault =
      some (some (Except.ok (some state) : Except GoError (Option ChainState)), world)) :
    before.db.chains chainID = some state := by
  rcases fault with _ | _ | ⟨_, _ | _⟩
  · have answered := congrArg Prod.fst (Option.some.inj executed)
    exact Except.ok.inj (Option.some.inj answered)
  · cases executed
  · cases executed
  · cases executed

/-- A receipt that was read is stored. -/
theorem exec_selectReceipt_ok
    (executed : exec label before (.sql (.selectReceipt key)) fault =
      some (some (Except.ok (some receipt) : Except GoError (Option TransitionReceipt)), world)) :
    KeyedList.find key before.db.transitionReceipts = some receipt := by
  rcases fault with _ | _ | ⟨_, _ | _⟩
  · have answered := congrArg Prod.fst (Option.some.inj executed)
    exact Except.ok.inj (Option.some.inj answered)
  · cases executed
  · cases executed
  · cases executed

/-- What a transaction of a call does. -/
theorem exec_transact (kind : call.outcome = outcome)
    (lost : ∀ result, body = .rolledBack result -> result = none)
    (commits : ∀ result final, body = .committed result final ->
      Commits chainID call.nodeID nextIndex outcome call.claim before.db final)
    (moved : ((Statement.transact before.db body fault).1,
        { before with
          db := (Statement.transact before.db body fault).2
          commits := (if applied body fault then
              [⟨label, call.nodeID, outcome, call.claim⟩] else []) ++
            before.commits }) = (answer, world)) :
    (world = before ∧ (Phase.after call answer = .reading call ∨
        Phase.after call answer = .unsure call)) ∨
    ∃ final, world =
        { before with db := final, commits := call.commit label :: before.commits } ∧
      Commits chainID call.nodeID nextIndex call.outcome call.claim before.db final := by
  subst kind
  obtain ⟨answered, moved⟩ := Prod.mk.inj moved
  rcases transact_cases before.db body fault with
    ⟨unapplied, same, finished⟩ | ⟨effective, result, final, committed, same⟩
  · refine .inl ⟨?_, ?_⟩
    · rw [← moved, same, unapplied]
      rfl
    · rw [← answered]
      cases given : (Statement.transact before.db body fault).1 with
      | failed error => exact .inl rfl
      | uncertain error => exact .inr rfl
      | finished result =>
        rw [lost result (finished result given)]
        exact .inl rfl
  · refine .inr ⟨final, ?_, commits result final committed⟩
    rw [← moved, same, effective]
    rfl

/-- What the transaction of a call does. -/
theorem exec_claims (transacts : Claims chainID call state operation answer after)
    (executed : exec label before operation fault = some (some answer, world)) :
    (after = .reading call ∨ after = .unsure call ∨ after = .claimed call) ∧
    ((world = before ∧ (after = .reading call ∨ after = .unsure call)) ∨
    ∃ final, world =
        { before with db := final, commits := call.commit label :: before.commits } ∧
      Commits chainID call.nodeID state.nextIndex call.outcome call.claim before.db final) := by
  have own : ∀ answer, Phase.after call answer = .reading call ∨
      Phase.after call answer = .unsure call ∨ Phase.after call answer = .claimed call := by
    rintro (_ | (_ | _) | _) <;> simp [Phase.after]
  cases transacts with
  | advance kind =>
    exact ⟨own _, exec_transact (by rw [Call.outcome, kind]) (fun _ => rolledBack_advanceChainBody)
      (fun _ _ => commits_advanceChainBody) (by cases executed; rfl)⟩
  | fail kind =>
    exact ⟨own _, exec_transact (by rw [Call.outcome, kind]) (fun _ => rolledBack_failChainBody)
      (fun _ _ => commits_failChainBody) (by cases executed; rfl)⟩

/-- The node a running chain waits for has no committed transition. -/
theorem Effected.fresh (effected : Effected nodes commits row)
    (found : chainNodePosition nodes nodeID = some index)
    (current : (index : Int) = row.nextIndex) (running : row.failed = false) :
    ∀ commit ∈ commits, commit.nodeID ≠ nodeID := by
  intro commit member same
  rcases effected.outcomes commit member with succeeded | failed
  · have passed := (effected.succeeded found).mp ⟨commit, member, same, succeeded⟩
    omega
  · have stopped := ((effected.failed found).mp ⟨commit, member, same, failed⟩).1
    rw [running] at stopped
    cases stopped

/-- A commit for the node the chain waits for moves the chain by one
transition. -/
theorem Effected.commit {commit : Commit} (effected : Effected nodes commits row)
    (found : chainNodePosition nodes commit.nodeID = some index)
    (current : (index : Int) = row.nextIndex) (running : row.failed = false)
    (same : next.nodes = row.nodes) (advances : Advances row next commit.outcome) :
    Effected nodes (commit :: commits) next := by
  have own : ∀ {nodeID position}, chainNodePosition nodes nodeID = some position ->
        (commit.nodeID = nodeID ↔ position = index) := by
    intro nodeID position placed
    constructor
    · rintro rfl
      rw [found] at placed
      exact (Option.some.inj placed).symm
    · rintro rfl
      have held := getElem?_of_chainNodePosition found
      rw [getElem?_of_chainNodePosition placed] at held
      exact (Option.some.inj held).symm
  have effect : (commit.outcome = .succeeded ∧
        next.nextIndex = row.nextIndex + 1 ∧ next.failed = false) ∨
      (commit.outcome = .failed ∧ next.nextIndex = row.nextIndex ∧ next.failed = true) := by
    generalize commit.outcome = outcome at advances
    cases advances with
    | succeeded moved unfailed => exact .inl ⟨rfl, moved, unfailed⟩
    | failed unmoved failed => exact .inr ⟨rfl, unmoved, failed⟩
  refine ⟨same.trans effected.unchanged, ?_, ?_, ?_, ?_⟩
  · intro other member
    rcases List.mem_cons.mp member with rfl | earlier
    · exact ⟨index, found⟩
    · exact effected.positioned other earlier
  · intro nodeID position placed
    have before := effected.succeeded placed
    have mine := own placed
    simp only [List.mem_cons, exists_eq_or_imp, before, mine]
    rcases effect with ⟨outcome, moved, _⟩ | ⟨outcome, unmoved, _⟩
    · simp only [outcome, and_true]
      omega
    · simp [outcome, unmoved]
  · intro nodeID position placed
    have before := effected.failed placed
    have mine := own placed
    simp only [List.mem_cons, exists_eq_or_imp, before, mine, running]
    rcases effect with ⟨outcome, _, unfailed⟩ | ⟨outcome, _, failed⟩
    · simp [outcome, unfailed]
    · simp only [outcome, failed, and_true, true_and, Bool.false_eq_true, false_and, or_false]
      omega
  · intro other member
    rcases List.mem_cons.mp member with rfl | earlier
    · exact effect.imp And.left And.left
    · exact effected.outcomes other earlier

/-- A commit for a node without a transition keeps the receipts exact. -/
theorem Receipted.commit {commit : Commit} (receipted : Receipted chainID commits db)
    (fresh : ∀ other ∈ commits, other.nodeID ≠ commit.nodeID)
    (effect : Commits chainID commit.nodeID nextIndex commit.outcome commit.claim db final) :
    Receipted chainID (commit :: commits) final := by
  have key : ∀ {nodeID}, nodeID ≠ commit.nodeID ->
      receiptKey chainID nodeID ≠ receiptKey chainID commit.nodeID := by
    intro nodeID different same
    exact different (congrArg TransitionReceiptKey.memberID same)
  constructor
  · intro nodeID receipt found
    by_cases same : nodeID = commit.nodeID
    · subst same
      cases valid : commit.claim.valid with
      | true =>
        obtain ⟨stored, present, owner, outcome⟩ := effect.receipt valid
        rw [found] at present
        cases present
        exact ⟨commit, List.mem_cons_self, rfl, valid, owner.symm, outcome.symm⟩
      | false =>
        rw [effect.unreceipted valid] at found
        obtain ⟨other, member, same, _⟩ := receipted.committed found
        exact absurd same (fresh other member)
    · rw [effect.others _ (key same)] at found
      obtain ⟨other, member, facts⟩ := receipted.committed found
      exact ⟨other, List.mem_cons_of_mem _ member, facts⟩
  · intro other member valid
    rcases List.mem_cons.mp member with rfl | earlier
    · exact effect.receipt valid
    · rw [effect.others _ (key (fresh other earlier))]
      exact receipted.persisted other earlier valid

/-- A commit of a call keeps the world sound. -/
theorem Sound.commit (sound : Sound chainID nodes bound before)
    (called : KeyedList.find label before.calls = some call)
    (waits : state.IsCurrent call.nodeID) (same : state.nodes = nodes)
    (effect : Commits chainID call.nodeID state.nextIndex call.outcome call.claim before.db final) :
    Sound chainID nodes bound
      { before with db := final, commits := call.commit label :: before.commits } := by
  obtain ⟨row, stored, effected⟩ := sound.effected
  obtain ⟨found, next, present, after, unmoved, running, kept, advances⟩ := effect.rows
  rw [stored] at present
  cases present
  obtain ⟨_, index, placed, current⟩ := waits
  rw [same] at placed
  rw [← unmoved] at current
  have fresh := effected.fresh placed current running
  refine ⟨⟨next, after, ?_⟩, ?_, ?_, ?_, sound.bounded, sound.distinct, ?_⟩
  · exact effected.commit placed current running kept advances
  · exact sound.receipted.commit fresh effect
  · intro first inFirst second inSecond equal
    rcases List.mem_cons.mp inFirst with rfl | inFirst <;>
      rcases List.mem_cons.mp inSecond with rfl | inSecond
    · rfl
    · exact absurd equal.symm (fresh second inSecond)
    · exact absurd equal (fresh first inFirst)
    · exact sound.unique first inFirst second inSecond equal
  · intro commit member
    rcases List.mem_cons.mp member with rfl | earlier
    · exact ⟨call, called, rfl⟩
    · exact sound.called commit earlier
  · intro ended member
    obtain ⟨own, claims⟩ := sound.returned ended member
    exact ⟨own, fun claimed => List.mem_cons_of_mem _ (claims claimed)⟩

/-- The receipt of a call's own claim was written by the call. -/
theorem Sound.commit_of_receipt (sound : Sound chainID nodes bound before)
    (called : KeyedList.find label before.calls = some call)
    (found : KeyedList.find (receiptKey chainID call.nodeID)
      before.db.transitionReceipts = some receipt)
    (valid : call.claim.valid = true) (owned : receipt.owner = call.claim) :
    call.commit label ∈ before.commits := by
  obtain ⟨commit, member, _, _, owner, _⟩ := sound.receipted.committed found
  obtain ⟨other, otherCalled, same⟩ := sound.called commit member
  have claims : call.claim = other.claim := by
    rw [← owned, ← owner, ← same]
    rfl
  have labels : label = commit.label := sound.distinct called otherCalled valid claims
  rw [← labels] at otherCalled same
  rw [called] at otherCalled
  cases otherCalled
  rw [same]
  exact member

/-- A new call keeps the world sound. -/
theorem Sound.call (sound : Sound chainID nodes bound before) {call : Call}
    (unused : call.claim.valid = true -> before.unused call.claim = true) :
    Sound chainID nodes (bound + 1) { before with calls := (bound, call) :: before.calls } := by
  have earlier : ∀ {label found}, KeyedList.find label before.calls = some found ->
        KeyedList.find label ((bound, call) :: before.calls) = some found := by
    intro label found present
    have different : bound ≠ label := by
      have := sound.bounded present
      omega
    simpa [KeyedList.find, different] using present
  have inverted : ∀ {label found},
      KeyedList.find label ((bound, call) :: before.calls) = some found ->
      (label = bound ∧ found = call) ∨ KeyedList.find label before.calls = some found := by
    intro label found present
    rw [KeyedList.find] at present
    split at present
    · rename_i same
      cases present
      exact .inl ⟨same.symm, rfl⟩
    · exact .inr present
  have differs : ∀ {label found}, KeyedList.find label before.calls = some found ->
      call.claim.valid = true -> found.claim ≠ call.claim := by
    intro label found present valid
    have all := List.all_eq_true.mp (unused valid) _ (KeyedList.mem_of_find_eq_some present)
    simpa using all
  refine ⟨sound.effected, sound.receipted, sound.unique, ?_, ?_, ?_, ?_⟩
  · intro commit member
    obtain ⟨found, present, same⟩ := sound.called commit member
    exact ⟨found, earlier present, same⟩
  · intro label found present
    rcases inverted present with ⟨rfl, _⟩ | present
    · omega
    · have := sound.bounded present
      omega
  · intro first second firstCall secondCall inFirst inSecond valid same
    rcases inverted inFirst with ⟨rfl, rfl⟩ | oldFirst <;>
      rcases inverted inSecond with ⟨rfl, rfl⟩ | oldSecond
    · rfl
    · exact absurd same.symm (differs oldSecond valid)
    · exact absurd same (differs oldFirst (same ▸ valid))
    · exact sound.distinct oldFirst oldSecond valid same
  · intro ended member
    obtain ⟨present, claims⟩ := sound.returned ended member
    exact ⟨earlier present, claims⟩

end Steps

/-- Every step of the calls keeps the invariant. -/
theorem callsSound_kept :
    (callsSound chainID nodes).Kept (machine chainID) .always (protocol chainID) where
  operation := by
    intro bound label phase after before world operation answer fault bounded
      sound knows moved executed _
    cases moved with
    | selectChain answer =>
      obtain rfl := exec_reads .selectChain executed
      exact ⟨sound, knows, fun _ _ _ _ known => known⟩
    | selectReceipt key answer =>
      obtain rfl := exec_reads (@Reads.selectReceipt chainID key) executed
      exact ⟨sound, knows, fun _ _ _ _ known => known⟩
    | @current call state waits =>
      have stored := exec_selectChain_ok executed
      obtain rfl := exec_reads .selectChain executed
      obtain ⟨row, present, effected⟩ := sound.effected
      rw [stored] at present
      cases present
      exact ⟨sound, ⟨knows.1, waits, effected.unchanged⟩, fun _ _ _ _ known => known⟩
    | @recognises call receipt valid owned outcome =>
      have stored := exec_selectReceipt_ok executed
      obtain rfl := exec_reads (@Reads.selectReceipt chainID _) executed
      exact ⟨sound, ⟨knows.1, sound.commit_of_receipt knows.1 stored valid owned⟩,
        fun _ _ _ _ known => known⟩
    | @claims call state _ _ _ transacts =>
      obtain ⟨own, ⟨rfl, open_⟩ | ⟨final, rfl, effect⟩⟩ := exec_claims transacts executed
      · refine ⟨sound, ?_, fun _ _ _ _ known => known⟩
        rcases open_ with rfl | rfl <;> exact ⟨knows.1, trivial⟩
      · refine ⟨sound.commit knows.1 knows.2.1 knows.2.2 effect, ?_, ?_⟩
        · rcases own with rfl | rfl | rfl
          · exact ⟨knows.1, trivial⟩
          · exact ⟨knows.1, trivial⟩
          · exact ⟨knows.1, List.mem_cons_self⟩
        · intro other phase _ _ known
          exact known.mono rfl fun _ => List.mem_cons_of_mem _
  blocked := by
    intro bound label before world operation fault _ _ executed
    cases operation <;> cases executed
  finished := by
    intro bound label phase before world result _ sound knows stops settled
    obtain ⟨call, called, rfl⟩ := Option.map_eq_some_iff.mp settled
    refine ⟨?_, fun other phase _ _ known => known.mono rfl fun _ => id⟩
    refine ⟨sound.effected, sound.receipted, sound.unique, sound.called,
      sound.bounded, sound.distinct, ?_⟩
    intro ended member
    rcases List.mem_cons.mp member with rfl | earlier
    · refine ⟨called, ?_⟩
      intro claimed
      obtain ⟨other, rfl | rfl⟩ := stops claimed <;>
        cases called.symm.trans knows.1 <;> exact knows.2
    · exact sound.returned ended earlier
  idle := by
    intro bound before world move sound moved _
    cases move with
    | tick now =>
      cases moved
      exact ⟨{ sound with }, fun _ _ _ _ known => known⟩
    | call call =>
      change (if _ then _ else _) = _ at moved
      split at moved <;> cases moved
  started := by
    intro bound before world move program phase sound moved _ entered
    obtain ⟨call, rfl, rfl⟩ := entered
    change (if _ then _ else _) = _ at moved
    split at moved
    · cases moved
    rename_i admitted
    cases moved
    refine ⟨sound.call ?_, ⟨by simp [KeyedList.find, Phase.call], trivial⟩, ?_⟩
    · intro valid
      simpa [valid] using admitted
    · intro other phase otherBounded _ known
      refine known.mono ?_ fun _ => id
      have different : bound ≠ other := by omega
      simp [KeyedList.find, different]

/-! ## Concurrent calls -/

/-- A chain on which nothing has happened yet. -/
structure FreshChain (chainID : String) (db : Database) (first : ChainState) : Prop where
  stored : db.chains chainID = some first
  start : first.nextIndex = 0
  running : first.failed = false
  unreceipted : ∀ nodeID, KeyedList.find (receiptKey chainID nodeID) db.transitionReceipts = none

/-- Before the first call nothing is committed. -/
theorem FreshChain.sound (fresh : FreshChain chainID db first) :
    Sound chainID first.nodes 0 (World.start db clock) where
  effected := by
    refine ⟨first, fresh.stored, rfl, ?_, ?_, ?_, ?_⟩
    · intro commit member
      cases member
    · intro nodeID index _
      simp only [World.start, List.not_mem_nil, false_and, exists_false, false_iff, fresh.start]
      omega
    · intro nodeID index _
      simp [World.start, fresh.running]
    · intro commit member
      cases member
  receipted := by
    constructor
    · intro nodeID receipt found
      rw [World.start, fresh.unreceipted nodeID] at found
      cases found
    · intro commit member
      cases member
  unique := by
    intro first member
    cases member
  called := by
    intro commit member
    cases member
  bounded := by
    intro label call found
    cases found
  distinct := by
    intro label other call call' found
    cases found
  returned := by
    intro ended member
    cases member

/-- Concurrent calls on a fresh chain, in every interleaving of their
statements and with any answers lost: two calls that claim one node are one
call, a call that claims a transition committed it, under a valid claim with
its claim as the owner of the stored receipt, and a node has a receipt exactly
when its transition was committed with a valid claim. Committed transitions
are made by the calls and are what the stored chain shows. -/
theorem sql_chain_calls_linearizable
    {chainID : String} {db : Database} {first : ChainState} {clock : Time}
    (fresh : FreshChain chainID db first)
    {config : Config World Op Op.Answer CallResult}
    (reached : (machine chainID).Reaches .always (.initial (World.start db clock)) config) :
    (∀ one ∈ config.world.returned, ∀ other ∈ config.world.returned,
      one.result.claimedNow = true -> other.result.claimedNow = true ->
      one.call.nodeID = other.call.nodeID -> one.label = other.label ∧ one.call = other.call) ∧
    (∀ ended ∈ config.world.returned, ended.result.claimedNow = true ->
      ended.call.commit ended.label ∈ config.world.commits ∧
      (ended.call.claim.valid = true -> ∃ receipt,
        KeyedList.find (receiptKey chainID ended.call.nodeID)
          config.world.db.transitionReceipts = some receipt ∧
        receipt.owner = ended.call.claim ∧
        receipt.outcome = ended.call.outcome)) ∧
    (∀ nodeID, (∃ receipt, KeyedList.find (receiptKey chainID nodeID)
        config.world.db.transitionReceipts = some receipt) ↔
      ∃ commit ∈ config.world.commits, commit.nodeID = nodeID ∧ commit.claim.valid = true) ∧
    (∀ commit ∈ config.world.commits, ∃ call,
      (commit.label, call) ∈ config.world.calls ∧ call.commit commit.label = commit) ∧
    ∃ state, config.world.db.chains chainID = some state ∧
      Effected first.nodes config.world.commits state := by
  have sound := ((Assertions.Hold.initial fresh.sound).reaches
    governs callsSound_kept reached).shared
  refine ⟨?_, ?_, ?_, ?_, sound.effected⟩
  · intro one inOne other inOther oneClaims otherClaims same
    obtain ⟨oneCalled, oneCommits⟩ := sound.returned one inOne
    obtain ⟨otherCalled, otherCommits⟩ := sound.returned other inOther
    have equal := sound.unique _ (oneCommits oneClaims) _ (otherCommits otherClaims) same
    have labels : one.label = other.label := congrArg Commit.label equal
    rw [labels, otherCalled] at oneCalled
    exact ⟨labels, (Option.some.inj oneCalled).symm⟩
  · intro ended member claimed
    have committed := (sound.returned ended member).2 claimed
    exact ⟨committed, sound.receipted.persisted _ committed⟩
  · intro nodeID
    constructor
    · rintro ⟨receipt, found⟩
      obtain ⟨commit, member, same, valid, _⟩ := sound.receipted.committed found
      exact ⟨commit, member, same, valid⟩
    · rintro ⟨commit, member, rfl, valid⟩
      obtain ⟨receipt, found, _⟩ := sound.receipted.persisted commit member valid
      exact ⟨receipt, found⟩
  · intro commit member
    obtain ⟨call, found, same⟩ := sound.called commit member
    exact ⟨call, KeyedList.mem_of_find_eq_some found, same⟩

/-- A database with a chain of two nodes. -/
def twoNodeDatabase : Database :=
  Database.empty.setChain "chain" twoNodeState

/-- The claim of a delivery of the first node. -/
def deliveryClaim (deliveryID : String) : TransitionClaim where
  deliveryID := deliveryID
  dispatchID := "dispatch"
  jobID := "first"
  jobFingerprint := some { jobType := "a" }

/-- The delivery of the first node that succeeds. -/
def winningCall : Call := ⟨.advance, "first", deliveryClaim "one"⟩

/-- The delivery that fails. -/
def losingCall : Call :=
  ⟨.fail (some (.text "boom")), "first", deliveryClaim "two"⟩

/-- Both read the chain, the commit of the first is applied but its answer is
lost, and the first finds its own receipt. -/
def lostAnswer : List (Action (Option Fault) Move) :=
  [.external (.call winningCall), .external (.call losingCall), .run 0 none, .run 1 none,
    .run 0 (some (.lost (.text "connection reset") true)), .run 1 none,
    .run 0 none, .run 0 none, .run 0 none, .run 0 none]

theorem sql_chain_calls_linearizable_lost_answer :
    ∃ config, (machine "chain").Reaches .always (.initial (World.start twoNodeDatabase 0)) config ∧
      ∃ receipt, KeyedList.find (receiptKey "chain" "first")
          config.world.db.transitionReceipts = some receipt ∧
        receipt.owner = deliveryClaim "one" ∧
        receipt.outcome = .succeeded := by
  have fresh : FreshChain "chain" twoNodeDatabase twoNodeState := ⟨rfl, rfl, rfl, fun _ => rfl⟩
  obtain ⟨config, reached, passed⟩ := @Machine.Reaches.of_any _ _ _ _ _ _ (machine "chain") .always
    _ (.initial (World.start twoNodeDatabase 0)) lostAnswer
    (fun config => config.world.returned.any fun ended =>
      ended.result.claimedNow && decide (ended.call = winningCall))
    (by decide +kernel)
  obtain ⟨ended, member, claims⟩ := List.any_eq_true.mp passed
  simp only [Bool.and_eq_true, decide_eq_true_eq] at claims
  have claimed := (sql_chain_calls_linearizable fresh reached).2.1 ended member claims.1
  obtain ⟨receipt, found, owner, outcome⟩ := claimed.2 (by
    rw [claims.2]
    decide)
  rw [claims.2] at found owner outcome
  exact ⟨config, reached, receipt, found, owner, outcome⟩

end JobQueue.Workflow.ChainCalls
