import JobQueue.Workflow.Delivery

/-!
# Delivery state of nested deliveries

What a worker attaches to a handler travels in the context the handler receives. A
handler that dispatches to a local runtime passes this context on: the local
delivery replaces attempt and metadata, but it keeps the settlement boundary and
the provenance of the delivery around it.
-/

namespace JobQueue.NestedDeliveries

open Workflow

/-- The identities of a delivery. -/
structure DeliveryMetadata where
  schemaVersion : Int := 0
  dispatchID : String := ""
  jobID : String := ""
  chainID : String := ""
  batchID : String := ""
  queue : String := ""
  deriving DecidableEq

/-- The version of metadata. -/
def deliveryMetadataVersion : Int := 1

/-- Facts that wait until a driver commits the settlement of a delivery. -/
structure DeliverySettlement (φ : Type) where
  committed : Bool := false
  applicationStateCommitted : Bool := false
  callbacks : List φ := []
  deriving DecidableEq

/-- The settlement boundaries of a process, by address. -/
abbrev Settlements (φ : Type) := Nat -> DeliverySettlement φ

/-- The runtime-owned values of a context. -/
structure HandlerContext where
  settlement : Option Nat := none
  provenance : Option DeliveryProvenance := none
  attempt : Option DeliveryAttempt := none
  metadata : Option DeliveryMetadata := none

variable (ctx : HandlerContext)

/-- What the workflow engine reads of a context. -/
def HandlerContext.delivery : DeliveryContext where
  attempt := ctx.attempt
  provenance := ctx.provenance
  settlement := ctx.settlement.isSome

/-- Attach a settlement. -/
def withDeliverySettlement (settlement : Nat) : HandlerContext :=
  { ctx with settlement := some settlement }

/-- Attach a provenance. -/
def withDeliveryProvenance
    (ctx : HandlerContext) (provenance : DeliveryProvenance) : HandlerContext :=
  { ctx with provenance := some provenance }

/-- Attach an attempt. -/
def withDeliveryAttempt (attempt : DeliveryAttempt) : HandlerContext :=
  { ctx with attempt := some attempt }

/-- Attach metadata. -/
def withDeliveryMetadata (metadata : DeliveryMetadata) : HandlerContext :=
  { ctx with metadata := some metadata }

/-- Values of the source override those of the replacement. -/
def preserveDeliveryContext (source replacement : HandlerContext) : HandlerContext where
  settlement := source.settlement <|> replacement.settlement
  provenance := source.provenance <|> replacement.provenance
  attempt := source.attempt <|> replacement.attempt
  metadata := source.metadata <|> replacement.metadata

section

variable {φ : Type}

/-- Note a commit in the settlement. -/
def markDeliveryApplicationStateCommitted
    (settlements : Settlements φ) (ctx : HandlerContext) : Settlements φ × Bool :=
  match ctx.settlement with
  | none => (settlements, false)
  | some address =>
    (Function.update settlements address
      { settlements address with applicationStateCommitted := true }, true)

/-- Queue a fact at the settlement boundary of a context, or publish it at once if
the boundary has committed: the boundaries, what is published, and whether there is
a boundary. -/
def deferUntilDeliveryCommitted (settlements : Settlements φ) (ctx : HandlerContext) (fact : φ) :
    Settlements φ × List φ × Bool :=
  match ctx.settlement with
  | none => (settlements, [], false)
  | some address =>
    if (settlements address).committed then (settlements, [fact], true)
    else
      let callbacks := (settlements address).callbacks ++ [fact]
      (Function.update settlements address
        { settlements address with callbacks := callbacks }, [], true)

end

/-! ### Contexts of deliveries -/

/-- A claimed row of the SQL queue. -/
structure DbJob where
  processingToken : String
  recoveryToken : String := ""
  recovered : Bool := false

/-- The context of an SQL delivery. -/
def databaseSettlementContext (settlement : Nat) (job : DbJob) : HandlerContext :=
  withDeliveryProvenance (withDeliverySettlement {} settlement)
    { generationID := job.processingToken
      recoveredGenerationID := job.recoveryToken
      recovered := job.recovered }

/-- One attempt of a local queue at a job. -/
structure LocalDelivery where
  metadata : DeliveryMetadata := {}
  attempt : Nat := 0
  maxRetry : Option Int := none
  /-- The configured decorator; it may return no context. -/
  decorator : HandlerContext -> Option HandlerContext := fun _ => none

namespace LocalDelivery

variable (delivery : LocalDelivery) (ctx : HandlerContext)

/-- The context of an attempt in `runWithRetry`. -/
def attemptContext : HandlerContext :=
  withDeliveryAttempt ctx
    { number := delivery.attempt, maxRetry := max 0 (delivery.maxRetry.getD 0) }

/-- Decorate, keeping the delivery. -/
def wrapHandlerContext : HandlerContext :=
  match delivery.decorator ctx with
  | none => ctx
  | some decorated => preserveDeliveryContext ctx decorated

/-- The metadata that is trusted. -/
def driverMetadata : DeliveryMetadata :=
  if delivery.metadata.schemaVersion ≠ deliveryMetadataVersion then {}
  else delivery.metadata

/-- The attempt of the driver. -/
def deliveryAttempt : DeliveryAttempt where
  number := delivery.attempt
  maxRetry := delivery.maxRetry.getD 0

/-- The context of the handler. -/
def withBusDeliveryContext : HandlerContext :=
  withDeliveryAttempt (withDeliveryMetadata ctx delivery.driverMetadata) delivery.deliveryAttempt

/-- What the handler of the job receives when it was dispatched with a context. -/
def handlerContext : HandlerContext :=
  delivery.withBusDeliveryContext (delivery.wrapHandlerContext (delivery.attemptContext ctx))

end LocalDelivery

/-- The context after local deliveries, each dispatched by the handler of the one
before it. -/
def nested (outer : HandlerContext) (deliveries : List LocalDelivery) : HandlerContext :=
  deliveries.foldl (fun ctx delivery => delivery.handlerContext ctx) outer

/-- The innermost handler sees no delivery state but its own. -/
structure Own (outer inner : HandlerContext) (delivery : LocalDelivery) : Prop where
  attempt : inner.attempt = some delivery.deliveryAttempt
  metadata : inner.metadata = some delivery.driverMetadata
  settlement : ∀ address, outer.settlement = some address -> inner.settlement ≠ some address
  provenance : ∀ generation, outer.provenance = some generation ->
    inner.provenance ≠ some generation
  /-- Facts are not deferred to the outer settlement. -/
  deferred : ∀ (φ : Type) (settlements : Settlements φ) (fact : φ) address,
    outer.settlement = some address ->
    (deferUntilDeliveryCommitted settlements inner fact).1 address = settlements address
  /-- The outer delivery is not marked. -/
  marked : ∀ (φ : Type) (settlements : Settlements φ) address, outer.settlement = some address ->
    (markDeliveryApplicationStateCommitted settlements inner).1 address = settlements address
  /-- Transitions do not record the outer generation. -/
  owner : ∀ generation outcome, outer.provenance = some generation ->
    generation.generationID ≠ "" ->
    (transitionClaimFromOutcome inner.delivery outcome).deliveryID ≠ generation.generationID

section

theorem preserve_some {α : Type} {source replacement : Option α} {value : α}
    (present : source = some value) :
    (source <|> replacement) = some value := by
  rw [present]
  rfl

/-- A local delivery keeps the settlement boundary of its dispatcher. -/
theorem LocalDelivery.handlerContext_settlement
    (present : outer.settlement = some address) (delivery : LocalDelivery) :
    (delivery.handlerContext outer).settlement = some address := by
  simp only [handlerContext, withBusDeliveryContext, wrapHandlerContext]
  split
  · exact present
  · exact preserve_some present

theorem LocalDelivery.handlerContext_provenance
    (present : outer.provenance = some generation) (delivery : LocalDelivery) :
    (delivery.handlerContext outer).provenance = some generation := by
  simp only [handlerContext, withBusDeliveryContext, wrapHandlerContext]
  split
  · exact present
  · exact preserve_some present

/-- What every local delivery keeps is kept at any depth. -/
theorem nested_keeps {kept : HandlerContext -> Prop}
    (step : ∀ ctx (delivery : LocalDelivery), kept ctx -> kept (delivery.handlerContext ctx))
    (start : kept outer) (deliveries : List LocalDelivery) :
    kept (nested outer deliveries) := by
  induction deliveries generalizing outer with
  | nil => exact start
  | cons delivery rest ih => exact ih (step outer delivery start)

end

/-- The handler of a local delivery, at any depth below a delivery of any runtime,
sees its own delivery state only, exactly if the outer delivery has neither a
settlement boundary nor provenance. -/
theorem nested_own_iff (outer : HandlerContext) (deliveries : List LocalDelivery)
    (innermost : LocalDelivery) :
    Own outer (nested outer (deliveries ++ [innermost])) innermost ↔
      outer.settlement = none ∧ outer.provenance = none := by
  have last : nested outer (deliveries ++ [innermost]) =
      innermost.handlerContext (nested outer deliveries) := by
    simp [nested]
  rw [last]
  constructor
  · intro own
    constructor
    · refine Option.eq_none_iff_forall_ne_some.mpr fun address present => ?_
      refine own.settlement address present ?_
      exact innermost.handlerContext_settlement <|
        @nested_keeps outer (·.settlement = some address)
          (fun _ delivery held => delivery.handlerContext_settlement held) present
          deliveries
    · refine Option.eq_none_iff_forall_ne_some.mpr fun generation present => ?_
      refine own.provenance generation present ?_
      exact innermost.handlerContext_provenance <|
        @nested_keeps outer (·.provenance = some generation)
          (fun _ delivery held => delivery.handlerContext_provenance held) present
          deliveries
  · rintro ⟨unbounded, unknown⟩
    refine ⟨rfl, rfl, ?_, ?_, ?_, ?_, ?_⟩ <;> simp [unbounded, unknown]

/-- A chain node that a local queue runs for the handler of an SQL delivery defers
its fact to the SQL row, marks it, and claims its transition for it. -/
theorem nested_foreign :
    let outer := databaseSettlementContext 7 { processingToken := "row" }
    let inner := nested outer [{}]
    let fresh : Settlements String := fun _ => {}
    ¬Own outer inner {} ∧ (deferUntilDeliveryCommitted fresh inner "node").1 7 =
        { callbacks := ["node"] } ∧
      (markDeliveryApplicationStateCommitted fresh inner).1 7 =
        { applicationStateCommitted := true } ∧
      ∀ outcome, (transitionClaimFromOutcome inner.delivery outcome).deliveryID = "row" := by
  refine ⟨fun own => own.settlement 7 rfl rfl, by decide, by decide, fun _ => rfl⟩

end JobQueue.NestedDeliveries
