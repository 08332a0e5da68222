import JobQueue.Workflow.Asked
import JobQueue.Workflow.Protocol

/-!
# Quiet programs

Reading the store, reporting ordinary facts, scheduling and running callbacks
only ask for quiet operations. A quiet program leaves every phase of the
protocol as it is, so it can be skipped when a longer program is followed.
-/

namespace JobQueue.Workflow

open Interleaving

/-- The program asks only for quiet operations. -/
abbrev Quiet {ρ : Type} (program : Engine ρ) : Prop :=
  Uses (fun operation : Op => operation.quiet = true) program

variable {ρ : Type}

/-- A quiet program leaves the phase as it is. -/
theorem Quiet.meets (quiet : Quiet program) :
    Meets EngineMoves program phase fun _ after => after = phase :=
  Uses.meets quiet fun operation answer listed =>
    .quiet phase operation answer listed

/-- A quiet beginning can be skipped. -/
theorem Quiet.bind_meets {κ : Type} {second : ρ -> Engine κ} {post : κ -> Phase -> Prop}
    (quiet : Quiet first) (rest : ∀ result, Meets EngineMoves (second result) phase post) :
    Meets EngineMoves (first >>= second) phase post := by
  refine Meets.bind quiet.meets ?_
  intro result after same
  rw [same]
  exact rest result

/-- Asking for a quiet operation is quiet. -/
theorem Quiet.ask (quiet : operation.quiet = true) : Quiet (Workflow.ask operation) :=
  ⟨quiet, fun _ => trivial⟩

/-- Programs on the side are quiet. -/
theorem Aside.quiet (aside : Aside program) : Quiet program := by
  refine Uses.weaken aside fun operation known => ?_
  unfold Op.aside at known
  split at known <;> first | rfl | cases known

/-! ## Reporting -/

theorem quiet_newID (kind : String) : Quiet (newID kind) :=
  Quiet.ask rfl

theorem quiet_readClock : Quiet readClock :=
  Quiet.ask rfl

theorem quiet_emit (ordinary : event.kind.terminal = false) : Quiet (emit context event) :=
  Quiet.ask (by simp [Op.quiet, ordinary])

theorem quiet_emitFact (error : Option GoError) (ordinary : kind.terminal = false) :
    Quiet (emitFact context kind eventID env error) :=
  quiet_readClock.bind fun _ => quiet_emit ordinary

theorem quiet_emitFresh (ordinary : kind.terminal = false) :
    Quiet (emitFresh context kind env error) :=
  (quiet_newID "evt").bind fun _ =>
    quiet_emitFact error ordinary

theorem quiet_storedJobOutcomeFactID : Quiet (storedJobOutcomeFactID kind outcome) :=
  uses_storedJobOutcomeFactID rfl

theorem quiet_emitStoredJobOutcome (outcome : StoredJobOutcome) :
    Quiet (emitStoredJobOutcome context outcome) := by
  unfold emitStoredJobOutcome
  split
  · exact trivial
  · refine quiet_storedJobOutcomeFactID.bind fun _ => ?_
    apply quiet_emit
    dsimp only
    split <;> rfl

theorem quiet_markDeliveryTransitionCommitted :
    Quiet (markDeliveryTransitionCommitted claimedNow receiptKnown) :=
  aside_markDeliveryTransitionCommitted.quiet

/-! ## Stores -/

theorem quiet_sqlGetChain : Quiet (SqlStore.getChain chainID) :=
  SqlStore.uses_getChain rfl

theorem quiet_sqlGetBatch (batchID : String) : Quiet (SqlStore.getBatch batchID) :=
  SqlStore.uses_getBatch rfl

theorem quiet_sqlChainTransitionReceipt (chainID nodeID : String) :
    Quiet (SqlStore.chainTransitionReceipt chainID nodeID) :=
  SqlStore.uses_chainTransitionReceipt rfl rfl

theorem quiet_sqlBatchTransitionReceipt (batchID jobID : String) :
    Quiet (SqlStore.batchTransitionReceipt batchID jobID) :=
  SqlStore.uses_batchTransitionReceipt rfl (fun _ => rfl) fun _ => rfl

theorem quiet_getChain (kind : StoreKind) : Quiet (kind.methods.getChain chainID) := by
  cases kind
  · exact Quiet.ask rfl
  · exact quiet_sqlGetChain

theorem quiet_getBatch (kind : StoreKind) : Quiet (kind.methods.getBatch batchID) := by
  cases kind
  · exact Quiet.ask rfl
  · exact quiet_sqlGetBatch batchID

theorem quiet_markBatchJobStarted (kind : StoreKind) :
    Quiet (kind.methods.markBatchJobStarted batchID jobID) := by
  cases kind
  · exact Quiet.ask rfl
  · exact SqlStore.uses_markBatchJobStarted rfl rfl

theorem quiet_markCallbackInvoked (kind : StoreKind) :
    Quiet (kind.methods.markCallbackInvoked key) := by
  cases kind
  · exact Uses.bind (Quiet.ask rfl) fun _ => trivial
  · exact Quiet.ask rfl

/-! ## Callbacks -/

theorem quiet_dispatchCallback (base : Envelope) (kind : CallbackKind) (error : Option GoError) :
    Quiet (dispatchCallback base kind error) :=
  aside_dispatchCallback.quiet

section Invocation

variable {r : Runtime} {kind : StoreKind} (builtin : r.store = kind.methods)

include builtin

theorem quiet_callbackOnce : Quiet (callbackOnce r key) := by
  unfold callbackOnce
  rw [builtin]
  refine Uses.bind (quiet_markCallbackInvoked kind) ?_
  rintro (_ | _) <;> exact trivial

theorem quiet_invokeObserved (retained : Quiet target.retained) (release : Quiet target.release)
    (claimed : Quiet onClaimed) :
    Quiet (invokeObserved r callback target cause start onClaimed) := by
  unfold invokeObserved
  split
  · exact trivial
  · refine Uses.bind (quiet_callbackOnce builtin) ?_
    rintro (_ | _ | _)
    · exact trivial
    · exact trivial
    · refine Uses.bind claimed fun _ => Uses.bind retained ?_
      rintro (_ | _)
      · exact trivial
      · refine Uses.bind (Quiet.ask rfl) fun _ => ?_
        exact Uses.bind release fun _ => trivial

theorem quiet_withCallbackChain (quiet : ∀ state, Quiet (invoke state)) :
    Quiet (withCallbackChain r env start invoke) := by
  unfold withCallbackChain
  rw [builtin]
  split
  · exact trivial
  · refine Uses.bind (quiet_getChain kind) ?_
    rintro (_ | state)
    · exact trivial
    · exact quiet state

theorem quiet_withCallbackBatch (quiet : ∀ state, Quiet (invoke state)) :
    Quiet (withCallbackBatch r env start invoke) := by
  unfold withCallbackBatch
  rw [builtin]
  split
  · exact trivial
  · refine Uses.bind (quiet_getBatch kind) ?_
    rintro (_ | state)
    · exact trivial
    · exact quiet state

theorem quiet_invokeCallback (claimed : Quiet onClaimed) :
    Quiet (invokeCallback r env start onClaimed) := by
  have registered : ∀ callback (target : CallbackTarget) cause, Quiet target.retained ->
      Quiet target.release -> Quiet (invokeObserved r callback target cause start onClaimed) :=
    fun callback _ cause retained release =>
      quiet_invokeObserved builtin retained release claimed
  unfold invokeCallback
  cases env.callbackKind with
  | chainCatch | chainFinally =>
    refine quiet_withCallbackChain builtin fun state => ?_
    exact registered _ _ _ (Uses.bind (Quiet.ask rfl) fun _ => trivial) (Quiet.ask rfl)
  | batchCatch | batchThen | batchFinally =>
    refine quiet_withCallbackBatch builtin fun state => ?_
    exact registered _ _ _ (Uses.bind (Quiet.ask rfl) fun _ => trivial) (Quiet.ask rfl)
  | unknown => exact trivial

theorem quiet_handleCallbackEnvelope (context : DeliveryContext) (env : Envelope) :
    Quiet (handleCallbackEnvelope r context env) := by
  have started : Quiet (emitCallbackStarted context env) :=
    quiet_readClock.bind fun _ => (quiet_newID "evt").bind fun _ =>
      (quiet_emit rfl).bind fun _ => trivial
  have ended : ∀ kind start error, EventKind.terminal kind = false ->
      Quiet (emitCallbackEnded context env kind start error) :=
    fun kind start error ordinary =>
      (quiet_newID "evt").bind fun _ => quiet_readClock.bind fun _ =>
        quiet_readClock.bind fun _ => quiet_emit ordinary
  refine quiet_readClock.bind fun start => ?_
  refine (quiet_invokeCallback builtin started).bind ?_
  rintro ⟨_ | error, start⟩
  · exact (ended _ _ _ rfl).bind fun _ => trivial
  · dsimp only
    split
    · exact trivial
    · split
      · exact trivial
      · exact (ended _ _ _ rfl).bind fun _ => trivial

theorem quiet_invokeCallbackInline :
    Quiet (invokeCallbackInline r context base callback error) := by
  refine (aside_callbackEnvelope callback).quiet.bind ?_
  rintro (_ | env)
  · exact trivial
  · exact quiet_handleCallbackEnvelope builtin context env

end Invocation

end JobQueue.Workflow
