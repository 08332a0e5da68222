import JobQueue.Interleaving.Invariant
import JobQueue.Workflow.Asked

/-!
# Concurrent chain calls of the SQL store

Any number of calls of `advanceChainOutcome` and `failChainOutcome` on one chain
run statement by statement: an unlocked read, a guarded transaction and reads
that resolve a lost update or a lost answer. Every statement may fail, and the
answer of a commit may be lost after it took effect or before.

Valid claims of different calls are different; calls without a valid claim are
admitted as well.
-/

namespace JobQueue.Workflow.ChainCalls

open Interleaving

/-- What a call claims for its node. -/
inductive CallKind
  | advance
  | fail (cause : Option GoError)
  deriving DecidableEq, Repr

/-- A call on the chain. -/
structure Call where
  kind : CallKind
  nodeID : String
  claim : TransitionClaim
  deriving DecidableEq, Repr

/-- The outcome that the receipt of a call records. -/
def Call.outcome (call : Call) : BatchJobOutcome :=
  match call.kind with
  | .advance => .succeeded
  | .fail _ => .failed

/-- The transaction of a call that read a state. -/
def Call.statement (chainID : String) (call : Call) (state : ChainState) : Statement :=
  match call.kind with
  | .advance => .advanceChain chainID call.nodeID state call.claim
  | .fail cause => .failChainNode chainID call.nodeID state cause call.claim

/-- What a call returns. -/
inductive CallResult
  | advanced (answer : Except GoError ChainAdvanceResult)
  | failed (answer : Except GoError ChainFailureResult)

/-- The call reports that it claimed the transition. -/
def CallResult.claimedNow : CallResult -> Bool
  | .advanced (.ok result) => result.claimedNow
  | .failed (.ok result) => result.claimedNow
  | _ => false

/-- The program of a call. -/
def Call.program (chainID : String) (call : Call) : Engine CallResult := do
  match call.kind with
  | .advance =>
    let answer ← SqlStore.advanceChainOutcome chainID call.nodeID call.claim
    pure (.advanced answer)
  | .fail cause =>
    let answer ← SqlStore.failChainOutcome chainID call.nodeID cause call.claim
    pure (.failed answer)

/-! ## The machine -/

/-- A committed transition. -/
structure Commit where
  label : Nat
  nodeID : String
  outcome : BatchJobOutcome
  claim : TransitionClaim
  deriving DecidableEq, Repr

/-- A call that returned. -/
structure Return where
  label : Nat
  call : Call
  result : CallResult

/-- The database and the history of the calls, newest first. -/
structure World where
  db : Database
  clock : Time
  calls : List (Nat × Call)
  commits : List Commit
  returned : List Return

/-- A database on which no call was made yet. -/
def World.start (db : Database) (clock : Time) : World :=
  { db := db, clock := clock, calls := [], commits := [], returned := [] }

/-- The body is committed, whether or not the caller learns of it. -/
def applied {β : Type} : TxBody β -> Option Fault -> Bool
  | .committed _ _, none => true
  | .committed _ _, some (.lost _ committed) => committed
  | _, _ => false

/-- The transition that a statement commits. -/
def commitOf (label : Nat) (db : Database) (now : Time)
    (fault : Option Fault) : Statement -> List Commit
  | .advanceChain chainID nodeID state claim =>
    if applied (db.advanceChainBody chainID nodeID state claim now) fault then
      [⟨label, nodeID, .succeeded, claim⟩]
    else []
  | .failChainNode chainID nodeID state cause claim =>
    if applied (db.failChainBody chainID nodeID state cause claim now) fault then
      [⟨label, nodeID, .failed, claim⟩]
    else []
  | _ => []

/-- Perform one statement of a call. -/
def exec (label : Nat) (world : World) :
    (operation : Op) -> Option Fault -> Option (Option operation.Answer × World)
  | .sql statement, fault =>
    some (some (statement.run world.db world.clock fault).1,
      { world with
        db := (statement.run world.db world.clock fault).2
        commits := commitOf label world.db world.clock fault statement ++ world.commits })
  | _, _ => none

/-- Moves of callers and the clock. -/
inductive Move
  | call (call : Call)
  | tick (now : Time)
  deriving DecidableEq, Repr

/-- No earlier call had this claim. -/
def World.unused (world : World) (claim : TransitionClaim) : Bool :=
  world.calls.all fun earlier => earlier.2.claim ≠ claim

/-- Perform one move. -/
def external (chainID : String) (label : Nat) (world : World) :
    Move -> Option (World × Option (Engine CallResult))
  | .call call =>
    if call.claim.valid && !world.unused call.claim then none
    else
      some ({ world with calls := (label, call) :: world.calls }, some (call.program chainID))
  | .tick now => some ({ world with clock := now }, none)

/-- Calls on one chain. -/
def machine (chainID : String) : Machine World Op Op.Answer CallResult (Option Fault) Move where
  exec := exec
  finish := fun label result world =>
    (KeyedList.find label world.calls).map fun call =>
      { world with returned := ⟨label, call, result⟩ :: world.returned }
  external := external chainID

/-! ## What a call does, phase by phase -/

/-- Where a call is. -/
inductive Phase
  /-- Nothing is claimed. -/
  | reading (call : Call)
  /-- A state was read in which the node can be claimed. -/
  | claiming (call : Call) (state : ChainState)
  /-- The answer of the commit was lost. -/
  | unsure (call : Call)
  /-- The receipt of the own claim was read. -/
  | seen (call : Call)
  /-- The commit was answered. -/
  | claimed (call : Call)
  deriving DecidableEq, Repr

/-- The call of a phase. -/
def Phase.call : Phase -> Call
  | .reading call => call
  | .claiming call _ => call
  | .unsure call => call
  | .seen call => call
  | .claimed call => call

/-- The phase after the transaction was answered. -/
def Phase.after (call : Call) : TxAnswer (Option (ChainState × Option TransitionReceipt)) -> Phase
  | .finished (some _) => .claimed call
  | .uncertain _ => .unsure call
  | _ => .reading call

/-- The transaction answers of a call. -/
inductive Claims (chainID : String) (call : Call) (state : ChainState) :
    (operation : Op) -> operation.Answer -> Phase -> Prop
  | advance (kind : call.kind = .advance)
      (answer : TxAnswer (Option (ChainState × Option TransitionReceipt))) :
      Claims chainID call state (.sql (.advanceChain chainID call.nodeID state call.claim)) answer
        (.after call answer)
  | fail {cause : Option GoError} (kind : call.kind = .fail cause)
      (answer : TxAnswer (Option (ChainState × Option TransitionReceipt))) :
      Claims chainID call state (.sql (.failChainNode chainID call.nodeID state cause call.claim))
        answer (.after call answer)

/-- Moves of a call. -/
inductive CallMoves (chainID : String) : Moves Op Op.Answer Phase
  | selectChain {phase : Phase} (answer : Except GoError (Option ChainState)) :
      CallMoves chainID phase (.sql (.selectChain chainID)) answer phase
  | selectReceipt {phase : Phase} (key : TransitionReceiptKey)
      (answer : Except GoError (Option TransitionReceipt)) :
      CallMoves chainID phase (.sql (.selectReceipt key)) answer phase
  /-- The chain waits for the node of the call. -/
  | current {call : Call} {state : ChainState} (waits : state.IsCurrent call.nodeID) :
      CallMoves chainID (.reading call) (.sql (.selectChain chainID))
        (Except.ok (some state) : Except GoError (Option ChainState)) (.claiming call state)
  | claims {call : Call} {state : ChainState} {operation : Op}
      {answer : operation.Answer} {after : Phase}
      (transacts : Claims chainID call state operation answer after) :
      CallMoves chainID (.claiming call state) operation answer after
  | recognises {call : Call} {receipt : TransitionReceipt} (valid : call.claim.valid = true)
      (owned : receipt.owner = call.claim) (outcome : receipt.outcome = call.outcome) :
      CallMoves chainID (.unsure call) (.sql (.selectReceipt ⟨.chain, chainID, call.nodeID⟩))
        (Except.ok (some receipt) : Except GoError (Option TransitionReceipt))
        (.seen call)

/-- A call claims its transition only after its commit was answered or its
receipt was read. -/
def CallStop (phase : Phase) (result : CallResult) : Prop :=
  result.claimedNow = true -> ∃ call, phase = .claimed call ∨ phase = .seen call

/-- The protocol of a call. -/
def protocol (chainID : String) : Protocol World Op Op.Answer CallResult Move Phase where
  moves := CallMoves chainID
  stop := CallStop
  entry := fun _ _ move phase =>
    ∃ call, move = .call call ∧ phase = .reading call

/-! ## Calls keep to the protocol -/

/-- The reads of a call on its chain. -/
inductive Reads (chainID : String) : Op -> Prop
  | selectChain : Reads chainID (.sql (.selectChain chainID))
  | selectReceipt (key : TransitionReceiptKey) : Reads chainID (.sql (.selectReceipt key))

theorem reads_getChain : Uses (Reads chainID) (SqlStore.getChain chainID) :=
  SqlStore.uses_getChain .selectChain

theorem reads_chainTransitionReceipt :
    Uses (Reads chainID) (SqlStore.chainTransitionReceipt chainID nodeID) :=
  SqlStore.uses_chainTransitionReceipt .selectChain (.selectReceipt _)

section Conformance

variable {chainID : String} {call : Call} {phase : Phase}

variable {ρ : Type} {state : ChainState} {nodeID : String}

theorem meets_reads_bind {κ : Type} (reads : Uses (Reads chainID) program) {next : ρ -> Engine κ}
    {post : κ -> Phase -> Prop}
    (continues : ∀ result, Meets (CallMoves chainID) (next result) phase post) :
    Meets (CallMoves chainID) (program >>= next) phase post := by
  refine (reads.meets ?_).bind ?_
  · rintro operation answer ⟨⟩
    · exact .selectChain answer
    · exact .selectReceipt _ answer
  · rintro result after rfl
    exact continues result

/-- What the first read of a call finds. -/
theorem meets_getChain_reading :
    Meets (CallMoves chainID) (SqlStore.getChain chainID) (.reading call) fun answer after =>
        (∃ state, answer = .ok state ∧ state.IsCurrent call.nodeID ∧ after = .claiming call state) ∨
        (after = .reading call ∧ ∀ state, answer = .ok state -> ¬state.IsCurrent call.nodeID) := by
  rintro (error | _ | state)
  · exact ⟨_, .selectChain _, .inr ⟨rfl, by rintro state ⟨⟩⟩⟩
  · exact ⟨_, .selectChain _, .inr ⟨rfl, by rintro state ⟨⟩⟩⟩
  · by_cases waits : state.IsCurrent call.nodeID
    · exact ⟨_, .current waits, .inl ⟨state, rfl, waits, rfl⟩⟩
    · refine ⟨_, .selectChain _, .inr ⟨rfl, ?_⟩⟩
      rintro other ⟨⟩
      exact waits

/-- What an unsure call knows after reading a receipt. -/
def Recognised (call : Call) (answer : Except GoError (Option TransitionReceipt)) (after : Phase) :
    Prop :=
  ∀ receipt, answer = .ok (some receipt) -> receipt.owner = call.claim ->
    receipt.outcome = call.outcome -> after = .seen call

theorem Recognised.of_absent (absent : ∀ receipt, answer ≠ .ok (some receipt)) :
    Recognised call answer after :=
  fun receipt found => absurd found (absent receipt)

theorem meets_getTransitionReceipt_unsure (valid : call.claim.valid = true) :
    Meets (CallMoves chainID) (getTransitionReceipt SqlStore.queryer .chain chainID call.nodeID)
      (.unsure call) (Recognised call) := by
  rintro (error | _ | receipt)
  · exact ⟨_, .selectReceipt _ _, Recognised.of_absent (by simp)⟩
  · exact ⟨_, .selectReceipt _ _, Recognised.of_absent (by simp)⟩
  · by_cases owns : receipt.owner = call.claim ∧ receipt.outcome = call.outcome
    · refine ⟨_, .recognises valid owns.1 owns.2, ?_⟩
      dsimp only [Prog.bind]
      split <;> exact fun _ _ _ _ => rfl
    · refine ⟨_, .selectReceipt _ _, ?_⟩
      dsimp only [Prog.bind]
      split
      · exact Recognised.of_absent (by simp)
      · rintro found same owner outcome
        cases same
        exact absurd ⟨owner, outcome⟩ owns

/-- The receipt read of an unsure call recognises its own claim. -/
theorem meets_chainTransitionReceipt_unsure (valid : call.claim.valid = true) :
    Meets (CallMoves chainID) (SqlStore.chainTransitionReceipt chainID call.nodeID) (.unsure call)
      (Recognised call) := by
  refine meets_reads_bind reads_getChain ?_
  rintro (error | state)
  · exact Recognised.of_absent (by simp)
  refine Meets.bind (meets_getTransitionReceipt_unsure valid) ?_
  rintro (error | _ | receipt) after read
  · exact Recognised.of_absent (by simp)
  · exact read
  · dsimp only
    split
    · exact Recognised.of_absent (by simp)
    · exact read

/-! ### Advancing -/

/-- An answer and the phase in which it is given. -/
def AdvanceEnds (answer : Except GoError ChainAdvanceResult) (after : Phase) : Prop :=
  CallStop after (.advanced answer)

theorem AdvanceEnds.unclaimed (unclaimed : (CallResult.advanced answer).claimedNow = false) :
    AdvanceEnds answer after := by
  intro claimed
  rw [unclaimed] at claimed
  cases claimed

theorem meets_readCommittedChainAdvance (kind : call.kind = .advance) :
    Meets (CallMoves chainID)
      (SqlStore.readCommittedChainAdvance chainID call.nodeID call.claim
        error) (.unsure call) AdvanceEnds := by
  unfold SqlStore.readCommittedChainAdvance
  split
  · exact .unclaimed rfl
  rename_i valid
  refine Meets.bind (meets_chainTransitionReceipt_unsure (not_not.mp valid)) ?_
  rintro (_ | _ | receipt) after read
  · exact .unclaimed rfl
  · exact .unclaimed rfl
  dsimp only
  split
  · exact .unclaimed rfl
  rename_i matching
  simp only [not_or, not_not] at matching
  have recognised := read receipt rfl matching.1 (by rw [matching.2, Call.outcome, kind])
  subst recognised
  refine meets_reads_bind reads_getChain ?_
  rintro (_ | state)
  · exact .unclaimed rfl
  dsimp only
  split
  · exact .unclaimed rfl
  split
  · exact .unclaimed rfl
  · exact .unclaimed rfl
  · exact fun _ => ⟨call, .inr rfl⟩

theorem meets_settledAdvance :
    Meets (CallMoves chainID) (SqlStore.settledAdvance chainID nodeID claim state owned disposition)
      phase AdvanceEnds := by
  unfold SqlStore.settledAdvance
  split
  · exact .unclaimed rfl
  refine meets_reads_bind reads_chainTransitionReceipt ?_
  rintro (_ | _) <;> exact .unclaimed rfl

theorem meets_lostAdvance :
    Meets (CallMoves chainID) (SqlStore.lostAdvance chainID nodeID claim) phase AdvanceEnds := by
  unfold SqlStore.lostAdvance
  refine meets_reads_bind reads_getChain ?_
  rintro (_ | state)
  · exact .unclaimed rfl
  dsimp only
  split
  · exact .unclaimed rfl
  split
  · exact meets_settledAdvance
  split <;> exact .unclaimed rfl

theorem meets_advanceChainOutcome (call : Call) (kind : call.kind = .advance) :
    Meets (CallMoves chainID) (SqlStore.advanceChainOutcome chainID call.nodeID call.claim)
      (.reading call) AdvanceEnds := by
  unfold SqlStore.advanceChainOutcome
  refine Meets.bind meets_getChain_reading ?_
  rintro (_ | state) after read
  · exact .unclaimed rfl
  dsimp only
  split
  · exact .unclaimed rfl
  rename_i owned disposition disposed
  split
  · exact meets_settledAdvance
  rename_i claimable
  split
  · exact .unclaimed rfl
  have waits := isCurrent_of_advance_claimable
    (SqlStore.advance_of_advanceDispositions disposed) (by simpa using claimable)
  rcases read with ⟨_, ⟨⟩, _, rfl⟩ | ⟨_, never⟩
  · intro answer
    refine ⟨.after call answer, .claims (.advance kind answer), ?_⟩
    match answer with
    | .failed error => exact .unclaimed rfl
    | .uncertain error => exact meets_readCommittedChainAdvance kind
    | .finished none => exact meets_lostAdvance
    | .finished (some (advanced, receipt)) =>
      show Meets _ (if advanced.completed = true then _ else _) _ _
      split <;> exact fun _ => ⟨call, .inl rfl⟩
  · exact absurd waits (never state rfl)

/-! ### Failing -/

/-- The phases without a claim, committed or not. -/
def Phase.waits : Phase -> Bool
  | .reading _ => true
  | .claiming _ _ => true
  | _ => false

/-- The phases that know of a committed claim. -/
def Phase.owns : Phase -> Bool
  | .seen _ => true
  | .claimed _ => true
  | _ => false

/-- An answer and the phase in which it is given. -/
def FailureEnds (answer : Except GoError ChainFailureResult) (after : Phase) : Prop :=
  match answer with
  | .error _ => True
  | .ok failed =>
    if failed.claimedNow then failed.owned = true ∧ after.owns = true else after.waits = true

theorem FailureEnds.stop (ends : FailureEnds answer after) : CallStop after (.failed answer) := by
  intro claimed
  cases answer with
  | error error => cases claimed
  | ok failed =>
    change failed.claimedNow = true at claimed
    simp only [FailureEnds, claimed, if_true] at ends
    cases after with
    | reading | claiming | unsure => cases ends.2
    | seen call => exact ⟨call, .inr rfl⟩
    | claimed call => exact ⟨call, .inl rfl⟩

theorem meets_readCommittedChainFailure (kind : call.kind = .fail cause) :
    Meets (CallMoves chainID)
      (SqlStore.readCommittedChainFailure chainID call.nodeID call.claim
        error) (.unsure call) FailureEnds := by
  unfold SqlStore.readCommittedChainFailure
  split
  · exact trivial
  rename_i valid
  refine Meets.bind (meets_chainTransitionReceipt_unsure (not_not.mp valid)) ?_
  rintro (_ | _ | receipt) after read
  · exact trivial
  · exact trivial
  dsimp only
  split
  · exact trivial
  rename_i matching
  simp only [not_or, not_not] at matching
  have recognised := read receipt rfl matching.1 (by rw [matching.2.1, Call.outcome, kind])
  subst recognised
  refine meets_reads_bind reads_getChain ?_
  rintro (_ | state)
  · exact trivial
  dsimp only
  split
  · exact trivial
  split
  · exact trivial
  split
  · exact trivial
  · exact ⟨rfl, rfl⟩

theorem meets_settledFailure (waits : phase.waits = true) :
    Meets (CallMoves chainID) (SqlStore.settledFailure chainID nodeID claim state owned)
      phase FailureEnds := by
  unfold SqlStore.settledFailure
  split
  · exact waits
  refine meets_reads_bind reads_chainTransitionReceipt ?_
  rintro (_ | _)
  · exact trivial
  · exact waits

theorem meets_lostFailure :
    Meets (CallMoves chainID) (SqlStore.lostFailure chainID nodeID claim) (.reading call)
      FailureEnds := by
  unfold SqlStore.lostFailure
  refine meets_reads_bind reads_getChain ?_
  rintro (_ | state)
  · exact trivial
  dsimp only
  split
  · exact trivial
  split
  · exact meets_settledFailure rfl
  split <;> exact trivial

theorem meets_failChainOutcome (call : Call) (kind : call.kind = .fail cause) :
    Meets (CallMoves chainID) (SqlStore.failChainOutcome chainID call.nodeID cause call.claim)
      (.reading call) FailureEnds := by
  unfold SqlStore.failChainOutcome
  refine Meets.bind meets_getChain_reading ?_
  rintro (_ | state) after read
  · exact trivial
  dsimp only
  split
  · exact trivial
  rename_i disposition disposed
  split
  · refine meets_settledFailure ?_
    rcases read with ⟨_, _, _, rfl⟩ | ⟨rfl, _⟩ <;> rfl
  rename_i claimable
  split
  · exact trivial
  have waits := isCurrent_of_failure_claimable disposed (by simpa using claimable)
  rcases read with ⟨_, ⟨⟩, _, rfl⟩ | ⟨_, never⟩
  · intro answer
    refine ⟨.after call answer, .claims (.fail kind answer), ?_⟩
    match answer with
    | .failed error => exact trivial
    | .uncertain error => exact meets_readCommittedChainFailure kind
    | .finished none => exact meets_lostFailure
    | .finished (some (failed, receipt)) => exact ⟨rfl, rfl⟩
  · exact absurd waits (never state rfl)

end Conformance

/-- Every call keeps to the protocol. -/
theorem governs : (protocol chainID).Governs (machine chainID) := by
  intro label before world move program moved
  cases move with
  | tick now => cases moved
  | call call =>
    change (if _ then _ else _) = _ at moved
    split at moved
    · cases moved
    cases moved
    refine ⟨.reading call, ⟨call, rfl, rfl⟩, ?_⟩
    unfold Call.program
    split
    · rename_i kind
      exact (meets_advanceChainOutcome _ kind).bind fun _ _ ends => ends
    · rename_i cause kind
      exact (meets_failChainOutcome _ kind).bind fun _ _ ends => ends.stop

end JobQueue.Workflow.ChainCalls
