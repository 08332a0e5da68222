import JobQueue.Runtime.Errors

/-!
# Classification of composed errors

Handlers, middleware and drivers compose errors in any order: they wrap and join
them, and they mark them as permanent or uncommitted. The markers are found by a
search of the whole tree, so only their presence decides how an attempt is
settled.
-/

namespace JobQueue
namespace GoError

/-- The errors `errors.Is` and `errors.As` visit, outermost first. -/
def nodes : GoError -> List GoError
  | .text message => [.text message]
  | .sentinel message => [.sentinel message]
  | .notFound => [.notFound]
  | .wrap operation cause => .wrap operation cause :: cause.nodes
  | .join first second => .join first second :: (first.nodes ++ second.nodes)
  | .permanent cause => .permanent cause :: cause.nodes
  | .uncommitted cause => .uncommitted cause :: cause.nodes
  | .acceptedExecution cause => .acceptedExecution cause :: cause.nodes

variable (error : GoError)

/-- `errors.Is` for a target: the errors that equal it, or whose `Is` method
accepts it, are given as a predicate. -/
def is (accepts : GoError -> Bool) : Bool :=
  error.nodes.any accepts

/-- A permanent marker occurs in the tree. -/
def HasPermanent : Prop :=
  ∃ cause, .permanent cause ∈ error.nodes

/-- An uncommitted marker occurs in the tree. -/
def HasUncommitted : Prop :=
  ∃ cause, .uncommitted cause ∈ error.nodes

theorem isPermanent_iff : error.isPermanent = true ↔ error.HasPermanent := by
  unfold HasPermanent
  induction error <;> simp_all [isPermanent, nodes, exists_or]

theorem isUncommitted_iff : error.isUncommitted = true ↔ error.HasUncommitted := by
  unfold HasUncommitted
  induction error <;> simp_all [isUncommitted, nodes, exists_or]

/-- Marking keeps every error of the tree. -/
theorem nodes_subset_asPermanent : error.nodes ⊆ error.asPermanent.nodes := by
  unfold asPermanent
  split
  · exact List.Subset.refl _
  · exact List.subset_cons_self _ _

theorem nodes_subset_asUncommitted : error.nodes ⊆ error.asUncommitted.nodes := by
  unfold asUncommitted
  split
  · exact List.Subset.refl _
  · exact List.subset_cons_self _ _

variable {error}

/-- A search that succeeds in part of a tree succeeds in the tree. -/
theorem is_of_subset (subset : error.nodes ⊆ other.nodes) (found : is error accepts = true) :
    is other accepts = true := by
  obtain ⟨node, member, accepted⟩ := List.any_eq_true.mp found
  exact List.any_eq_true.mpr ⟨node, subset member, accepted⟩

end GoError

/-- How an error comes about: what a handler returns, and what is put around it.
A longer `errors.Join` visits the same errors as nested ones, and the predicate
of `FailOnError` may be missing. -/
inductive Composed where
  | success
  | application (error : String)
  | sentinel (name : String)
  | wrapped (operation : String) (cause : Composed)
  | joined (first second : Composed)
  | permanent (cause : Composed)
  | uncommitted (cause : Composed)
  | failOnError (when_ : Option (GoError -> Bool)) (next : Composed)

/-- `FailOnError.Handle` on what the next handler returns. -/
def failOnError (when_ : Option (GoError -> Bool)) : Option GoError -> Option GoError
  | none => none
  | some error =>
    if when_.all (· error) then
      some (GoError.wrap "fatal bus error" error).asPermanent
    else some error

namespace Composed

/-- The error value, `nil` for none. `%w` of a nil error wraps nothing. -/
def value : Composed -> Option GoError
  | .success => none
  | .application error => some (.text error)
  | .sentinel name => some (.sentinel name)
  | .wrapped operation cause =>
    match cause.value with
    | none => some (.text operation)
    | some error => some (.wrap operation error)
  | .joined first second => GoError.joinAll [first.value, second.value]
  | .permanent cause => cause.value.map GoError.asPermanent
  | .uncommitted cause => cause.value.map GoError.asUncommitted
  | .failOnError when_ next => JobQueue.failOnError when_ next.value

/-- One composition is put around another, with any number of layers. -/
inductive Within (part : Composed) : Composed -> Prop where
  | refl : Within part part
  | wrapped : Within part whole -> Within part (.wrapped operation whole)
  | joinedLeft : Within part whole -> Within part (.joined whole other)
  | joinedRight : Within part whole -> Within part (.joined other whole)
  | permanent : Within part whole -> Within part (.permanent whole)
  | uncommitted : Within part whole -> Within part (.uncommitted whole)
  | failOnError : Within part whole -> Within part (.failOnError when_ whole)

/-- No layer loses an error of the tree below it. -/
theorem Within.nodes_subset (within : Within part whole) (built : part.value = some error) :
    ∃ result, whole.value = some result ∧ error.nodes ⊆ result.nodes := by
  induction within with
  | refl => exact ⟨error, built, List.Subset.refl _⟩
  | @wrapped _ operation _ ih =>
    obtain ⟨result, value, subset⟩ := ih
    exact ⟨.wrap operation result, by rw [Composed.value, value],
      List.subset_cons_of_subset _ subset⟩
  | @joinedLeft _ other _ ih =>
    obtain ⟨result, value, subset⟩ := ih
    cases joined : other.value with
    | none => exact ⟨result, by simp [Composed.value, value, joined, GoError.joinAll], subset⟩
    | some second =>
      exact ⟨.join result second, by simp [Composed.value, value, joined, GoError.joinAll],
        List.subset_cons_of_subset _ (List.subset_append_of_subset_left _ subset)⟩
  | @joinedRight _ other _ ih =>
    obtain ⟨result, value, subset⟩ := ih
    cases joined : other.value with
    | none => exact ⟨result, by simp [Composed.value, value, joined, GoError.joinAll], subset⟩
    | some first =>
      exact ⟨.join first result, by simp [Composed.value, value, joined, GoError.joinAll],
        List.subset_cons_of_subset _ (List.subset_append_of_subset_right _ subset)⟩
  | permanent _ ih =>
    obtain ⟨result, value, subset⟩ := ih
    exact ⟨result.asPermanent, by rw [Composed.value, value]; rfl,
      List.Subset.trans subset result.nodes_subset_asPermanent⟩
  | uncommitted _ ih =>
    obtain ⟨result, value, subset⟩ := ih
    exact ⟨result.asUncommitted, by rw [Composed.value, value]; rfl,
      List.Subset.trans subset result.nodes_subset_asUncommitted⟩
  | @failOnError _ when_ _ ih =>
    obtain ⟨result, value, subset⟩ := ih
    by_cases selected : when_.all (· result) = true
    · exact ⟨(GoError.wrap "fatal bus error" result).asPermanent,
        by simp [Composed.value, value, JobQueue.failOnError, selected],
        List.Subset.trans (List.subset_cons_of_subset _ subset)
          (GoError.nodes_subset_asPermanent (.wrap "fatal bus error" result))⟩
    · exact ⟨result, by simp [Composed.value, value, JobQueue.failOnError, selected], subset⟩

end Composed

/-- The three failing decisions, by the markers in the tree. -/
theorem classifyAttempt_iff (attempt : DeliveryAttempt) (error : GoError) :
    (classifyAttempt attempt (some error) = .redeliver ↔ error.HasUncommitted) ∧
    (classifyAttempt attempt (some error) = .failed ↔ ¬error.HasUncommitted ∧
        (error.HasPermanent ∨ attempt.maxRetry ≤ attempt.number)) ∧
    (classifyAttempt attempt (some error) = .retry ↔ ¬error.HasUncommitted ∧ ¬error.HasPermanent ∧
        attempt.number < attempt.maxRetry) := by
  rw [← error.isUncommitted_iff, ← error.isPermanent_iff]
  simp only [classifyAttempt, DeliveryAttempt.exhausted]
  cases error.isUncommitted <;> cases error.isPermanent <;> by_cases spent : attempt.maxRetry ≤
    attempt.number <;> simp [spent, ← Int.not_le]

/-- Every composed error is classified by the markers anywhere in it. What is
composed around an uncommitted error is redelivered, so it takes nothing from the
retry budget. Marking twice is marking once, and marking loses no match. -/
theorem classifyAttempt_composed (attempt : DeliveryAttempt) (composed : Composed) :
    (composed.value = none -> classifyAttempt attempt composed.value = .succeeded) ∧
    ∀ error, composed.value = some error ->
      (classifyAttempt attempt composed.value = .redeliver ↔ error.HasUncommitted) ∧
      (classifyAttempt attempt composed.value = .failed ↔ ¬error.HasUncommitted ∧
          (error.HasPermanent ∨ attempt.maxRetry ≤ attempt.number)) ∧
      (classifyAttempt attempt composed.value = .retry ↔
        ¬error.HasUncommitted ∧ ¬error.HasPermanent ∧ attempt.number < attempt.maxRetry) ∧
      (error.HasUncommitted -> ∀ whole, composed.Within whole ->
        classifyAttempt attempt whole.value = .redeliver) ∧
      error.asPermanent.asPermanent = error.asPermanent ∧
      error.asUncommitted.asUncommitted = error.asUncommitted ∧
      ∀ accepts, error.is accepts = true -> error.asPermanent.is accepts = true ∧
          error.asUncommitted.is accepts = true := by
  refine ⟨fun success => by rw [success]; rfl, fun error built => ?_⟩
  obtain ⟨redelivered, failed, retried⟩ := classifyAttempt_iff attempt error
  rw [built]
  refine ⟨redelivered, failed, retried, ?_, ?_, ?_, ?_⟩
  · intro marked whole within
    obtain ⟨result, value, subset⟩ := within.nodes_subset built
    rw [value, (classifyAttempt_iff attempt result).1]
    exact marked.imp fun cause member => subset member
  · exact if_pos error.isPermanent_asPermanent
  · exact if_pos error.isUncommitted_asUncommitted
  · exact fun accepts found =>
      ⟨GoError.is_of_subset error.nodes_subset_asPermanent found,
        GoError.is_of_subset error.nodes_subset_asUncommitted found⟩

end JobQueue
