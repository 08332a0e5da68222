import JobQueue.Runtime.NestedDeliveries

/-!
# Continuation permits

A runtime that drains lets its own handlers enqueue descendants. The permission
travels in the handler's context as a list of permits and ends when the handler
returns, wherever copies of the context went. Whether a scope owns a context is
a matter of the permits on the way the context was built: nothing else grants it,
and merging contexts loses none.
-/

namespace JobQueue.Continuations

open NestedDeliveries Workflow

/-- A permit: its own address and the token of the scope that issued it. -/
structure Permit where
  address : Nat
  scope : Nat
  deriving DecidableEq

/-- What is attached to a context: a value of a delivery, or one that no
delivery reads (also a deadline or a cancellation). -/
inductive Value where
  | settlement (settlement : Nat)
  | provenance (provenance : DeliveryProvenance)
  | attempt (attempt : DeliveryAttempt)
  | metadata (metadata : DeliveryMetadata)
  | other (key : String)

/-- An entry of a context. -/
inductive Entry where
  | value (value : Value)
  | permits (permits : List Permit)

/-- A context by its entries, the latest first; the nil context is `none`. -/
abbrev Context := Option (List Entry)

/-- A context with one more entry. -/
def withEntry (ctx : Context) (entry : Entry) : Context :=
  some (entry :: ctx.getD [])

/-- `ctx.Value`: the latest entry under a key. -/
def lookup (ctx : Context) (key : Entry -> Option α) : Option α :=
  (ctx.getD []).findSome? key

/-- The delivery values of a context. -/
def delivery (ctx : Context) : HandlerContext where
  settlement := lookup ctx fun
    | .value (.settlement settlement) => some settlement
    | _ => none
  provenance := lookup ctx fun
    | .value (.provenance provenance) => some provenance
    | _ => none
  attempt := lookup ctx fun
    | .value (.attempt attempt) => some attempt
    | _ => none
  metadata := lookup ctx fun
    | .value (.metadata metadata) => some metadata
    | _ => none

/-- The permits of the last entry. -/
def continuationPermits (ctx : Context) : List Permit :=
  (lookup ctx fun
    | .permits permits => some permits
    | _ => none).getD []

/-- `Permit` at the address of the new permit; a nil scope and the zero scope
have no token. -/
def permit (scope : Option Nat) (address : Nat) (ctx : Context) : Context :=
  match scope with
  | none => some (ctx.getD [])
  | some token => withEntry ctx (.permits (continuationPermits ctx ++ [⟨address, token⟩]))

/-- `Owns`, once some permits have been released. -/
def owns (scope : Option Nat) (released : Nat -> Bool) (ctx : Context) : Bool :=
  match scope with
  | none => false
  | some token => (continuationPermits ctx).any fun permit =>
    permit.scope = token && !released permit.address

/-- Attach a value that may be missing. -/
def withValue (entry : α -> Value) (value : Option α) (ctx : Context) : Context :=
  match value with
  | none => ctx
  | some value => withEntry ctx (.value (entry value))

/-- Attach the delivery values that are there. -/
def withDelivery (values : HandlerContext) (ctx : Context) : Context :=
  withValue .metadata values.metadata (withValue .attempt values.attempt
    (withValue .provenance values.provenance (withValue .settlement values.settlement ctx)))

/-- Carry the delivery into a replacement. -/
def preserveDeliveryContext (source replacement : Context) : Context :=
  let preserved := withDelivery (delivery source) (some (replacement.getD []))
  let sourcePermits := continuationPermits source
  if sourcePermits = [] then preserved
  else
    let replacementPermits := continuationPermits preserved
    let added := sourcePermits.filter (· ∉ replacementPermits)
    if added = [] then preserved
    else withEntry preserved (.permits (replacementPermits ++ added))

/-- How a context was built. -/
inductive Built where
  | nil
  | background
  | value (value : Value) (parent : Built)
  | permit (scope : Option Nat) (address : Nat) (parent : Built)
  | preserve (source replacement : Built)

namespace Built

/-- The context that was built. -/
def context : Built -> Context
  | .nil => none
  | .background => some []
  | .value added parent => withEntry parent.context (.value added)
  | .permit scope address parent => Continuations.permit scope address parent.context
  | .preserve source replacement => preserveDeliveryContext source.context replacement.context

/-- The permits issued on the way to a context. -/
def history : Built -> List Permit
  | .nil | .background => []
  | .value _ parent => parent.history
  | .permit none _ parent => parent.history
  | .permit (some token) address parent => ⟨address, token⟩ :: parent.history
  | .preserve source replacement => source.history ++ replacement.history

end Built

/-! ### What attaching and merging do -/

section

variable (ctx source replacement : Context)

theorem continuationPermits_withValue (entry : α -> Value) (value : Option α) :
    continuationPermits (withValue entry value ctx) = continuationPermits ctx := by
  cases value <;> rfl

/-- Delivery values leave the permits of the replacement alone. -/
theorem continuationPermits_withDelivery :
    continuationPermits (withDelivery values (some (replacement.getD []))) =
      continuationPermits replacement := by
  simp only [withDelivery, continuationPermits_withValue]
  cases replacement <;> rfl

theorem delivery_withDelivery :
    delivery (withDelivery values (some (replacement.getD []))) =
      NestedDeliveries.preserveDeliveryContext values (delivery replacement) := by
  rcases values with ⟨_ | _, _ | _, _ | _, _ | _⟩ <;> cases replacement <;> rfl

/-- A merged context carries the permits of both. -/
theorem mem_permits_preserve (permit : Permit) :
    permit ∈ continuationPermits (preserveDeliveryContext source replacement) ↔
      permit ∈ continuationPermits source ∨ permit ∈ continuationPermits replacement := by
  simp only [preserveDeliveryContext, continuationPermits_withDelivery]
  split
  · rename_i nothing
    simp [nothing, continuationPermits_withDelivery]
  · split
    · rename_i covered
      rw [continuationPermits_withDelivery]
      refine ⟨Or.inr, fun either => either.elim (fun member => ?_) id⟩
      by_contra missing
      exact List.filter_eq_nil_iff.mp covered permit member (decide_eq_true missing)
    · change permit ∈ continuationPermits replacement ++ _ ↔ _
      simp only [List.mem_append, List.mem_filter, decide_eq_true_eq]
      tauto

end

/-- The permits a context carries are those of its history. -/
theorem Built.mem_permits_iff (built : Built) (permit : Permit) :
    permit ∈ continuationPermits built.context ↔ permit ∈ built.history := by
  induction built with
  | nil | background => simp [Built.context, Built.history, continuationPermits, lookup]
  | value _ parent ih => exact ih
  | permit scope address parent ih =>
    cases scope with
    | none =>
      rw [Built.history, ← ih, Built.context]
      cases parent.context <;> rfl
    | some token =>
      change permit ∈ continuationPermits parent.context ++ _ ↔ _
      simp [Built.history, ih, or_comm]
  | preserve source replacement ofSource ofReplacement =>
    rw [Built.context, mem_permits_preserve, ofSource, ofReplacement,
      Built.history, List.mem_append]

/-- A scope owns a context through an unreleased permit of its own on the
context's history. -/
theorem owns_iff_exists (built : Built) :
    owns scope released built.context = true ↔ ∃ permit ∈ built.history, scope = some permit.scope ∧
        released permit.address = false := by
  cases scope with
  | none => simp [owns]
  | some token => simp [owns, built.mem_permits_iff, @eq_comm _ token]

/-- Permission is scoped and expires: at every time, whatever has been released,
a scope owns exactly the contexts with an unreleased permit of its own on their
history. Releasing one permit leaves every other in force, a merged context is
owned like its two parts, and it shows the delivery values of its source. -/
theorem continuation_scoped
    (scope : Option Nat) (released : Nat -> Bool) (source replacement : Built) :
    let preserved := Built.preserve source replacement
    let values := delivery preserved.context
    (owns scope released source.context = true ↔
      ∃ permit ∈ source.history, scope = some permit.scope ∧ released permit.address = false) ∧
    (∀ address, owns scope (Function.update released address true) source.context = true ↔
        ∃ permit ∈ source.history, scope = some permit.scope ∧
          released permit.address = false ∧ permit.address ≠ address) ∧
    owns scope released preserved.context = (owns scope released source.context ||
        owns scope released replacement.context) ∧
    (∀ settlement, (delivery source.context).settlement = some settlement ->
      values.settlement = some settlement) ∧
    (∀ provenance, (delivery source.context).provenance = some provenance ->
      values.provenance = some provenance) ∧
    (∀ attempt, (delivery source.context).attempt = some attempt -> values.attempt = some attempt) ∧
    (∀ metadata, (delivery source.context).metadata = some metadata ->
      values.metadata = some metadata) := by
  intro preserved values
  have shown : values = NestedDeliveries.preserveDeliveryContext
      (delivery source.context) (delivery replacement.context) := by
    rw [← delivery_withDelivery]
    change delivery (preserveDeliveryContext source.context replacement.context) = _
    simp only [preserveDeliveryContext]
    split
    · rfl
    · split <;> rfl
  refine ⟨owns_iff_exists source, fun address => ?_, ?_, ?_⟩
  · rw [owns_iff_exists]
    refine exists_congr fun permit => and_congr_right fun _ =>
      and_congr_right fun _ => ?_
    by_cases same : permit.address = address
    · simp [same]
    · simp [same]
  · rw [Bool.eq_iff_iff, Bool.or_eq_true]
    simp only [owns_iff_exists, Built.history, List.mem_append, preserved]
    constructor
    · rintro ⟨permit, member | member, unreleased⟩
      · exact .inl ⟨permit, member, unreleased⟩
      · exact .inr ⟨permit, member, unreleased⟩
    · rintro (⟨permit, member, unreleased⟩ | ⟨permit, member, unreleased⟩)
      · exact ⟨permit, .inl member, unreleased⟩
      · exact ⟨permit, .inr member, unreleased⟩
  · rw [shown]
    refine ⟨?_, ?_, ?_, ?_⟩ <;> intro value present <;>
      simp [NestedDeliveries.preserveDeliveryContext, present]

end JobQueue.Continuations
