import Mathlib.Algebra.Order.Ring.Nat
import Mathlib.Data.List.Basic

/-!
# Facts deferred to a settlement

The settlement of a delivery collects callbacks until `Commit`, which takes the
list under the lock and runs it outside. A callback registered later is run at
once by its goroutine. Callbacks are arbitrary code: they may panic, register
further callbacks and call `Commit` again. Every callback is at all times in one
place: waiting, owed by a call in progress, or invoked.
-/

namespace JobQueue.Settlements

/-- A call in progress: a loop with callbacks left to invoke, in `Commit` or for
one late registration, or a callback inside `invokeDeliveryCommit`. -/
inductive Frame where
  | invoking (rest : List Nat)
  | running (callback : Nat)

/-- The callbacks that a call has still to invoke. -/
def Frame.rest : Frame -> List Nat
  | .invoking rest => rest
  | .running _ => []

/-- Callbacks are numbered as they are registered. What was invoked and how many
were registered before the first `Commit` is recorded beside. -/
structure DeliverySettlement where
  committed : Bool := false
  callbacks : List Nat := []
  registered : Nat := 0
  invoked : List Nat := []
  early : Nat := 0

/-- The calls in progress on a goroutine, the innermost first. -/
abbrev Stack := List Frame

/-- The critical section of `deferCommit` for a new callback, and what is left to
do after it. -/
def deferCommit (s : DeliverySettlement) : DeliverySettlement × Stack :=
  let callback := s.registered
  let numbered := { s with registered := callback + 1 }
  if !s.committed then
    ({ numbered with callbacks := s.callbacks ++ [callback] }, [])
  else (numbered, [.invoking [callback]])

/-- The critical section of `Commit`, and what is left to do after it. -/
def commit (s : DeliverySettlement) : DeliverySettlement × Stack :=
  if s.committed then (s, [])
  else
    ({ s with committed := true, callbacks := [], early := s.registered }, [.invoking s.callbacks])

/-- A panic ends every call up to the next `recover`; without one it escapes. -/
def unwind : Stack -> Option Stack
  | [] => none
  | .running _ :: outer => some outer
  | .invoking _ :: outer => unwind outer

/-- The goroutine runs code of its own or of a callback. -/
def Calling : Stack -> Prop
  | [] | .running _ :: _ => True
  | .invoking _ :: _ => False

/-- A goroutine makes a call of the settlement. -/
inductive Calls (s : DeliverySettlement) (stack : Stack) : DeliverySettlement × Stack -> Prop where
  | defers (calling : Calling stack) : Calls s stack ((deferCommit s).1, (deferCommit s).2 ++ stack)
  | commits (calling : Calling stack) : Calls s stack ((commit s).1, (commit s).2 ++ stack)

/-- A goroutine goes on with the calls it is in. -/
inductive Works (s : DeliverySettlement) : Stack -> DeliverySettlement × Stack -> Prop where
  | invokes : Works s (.invoking (callback :: rest) :: outer)
      ({ s with invoked := s.invoked ++ [callback] }, .running callback :: .invoking rest :: outer)
  | finishes : Works s (.invoking [] :: outer) (s, outer)
  | returns : Works s (.running callback :: outer) (s, outer)
  | panics (caught : unwind (.running callback :: outer) = some handler) :
      Works s (.running callback :: outer) (s, handler)

/-- A settlement and the goroutines that use it. -/
abbrev Config := DeliverySettlement × List Stack

/-- One goroutine takes a step. -/
inductive Lift (step : DeliverySettlement -> Stack -> DeliverySettlement × Stack ->
    Prop) : Config -> Config -> Prop where
  | here (before after : List Stack) (moved : step s stack (t, next)) :
      Lift step (s, before ++ stack :: after) (t, before ++ next :: after)

/-- One step of the goroutines. -/
inductive Step : Config -> Config -> Prop where
  | starts : Step (s, goroutines) (s, goroutines ++ [[]])
  | calls (call : Lift Calls config next) : Step config next
  | works (work : Lift Works config next) : Step config next

/-- Configurations of every run. -/
inductive Reachable : Config -> Prop where
  | zero : Reachable ({}, [])
  | step (reachable : Reachable config) (step : Step config next) : Reachable next

/-! ### Every callback in one place -/

/-- What holds of a settlement and all the calls in progress. -/
structure Accounted (s : DeliverySettlement) (frames : List Frame) : Prop where
  once : (s.callbacks ++ s.invoked ++ frames.flatMap Frame.rest).Perm (List.range s.registered)
  quiet : s.committed = false ->
    s.invoked = [] ∧ frames = [] ∧ s.callbacks = List.range s.registered
  taken : s.committed = true -> s.callbacks = []
  early_le : s.early ≤ s.registered
  /-- The loop that has early callbacks left has all of them, in order. -/
  ordered : ∀ frame ∈ frames, (∀ callback ∈ frame.rest, s.early ≤ callback) ∨
    s.invoked.filter (· < s.early) ++ frame.rest = List.range s.early
  sorted : s.invoked.filter (· < s.early) <+: List.range s.early

namespace Accounted

theorem perm (accounted : Accounted s frames) (same : frames.Perm others) : Accounted s others where
  once := (List.Perm.append_left _ (same.symm.flatMap_right _)).trans accounted.once
  quiet waiting := by
    obtain ⟨nothing, rfl, list⟩ := accounted.quiet waiting
    exact ⟨nothing, same.nil_eq.symm, list⟩
  taken := accounted.taken
  early_le := accounted.early_le
  ordered frame member := accounted.ordered frame (same.mem_iff.mpr member)
  sorted := accounted.sorted

theorem count (accounted : Accounted s frames) (callback : Nat) :
    s.callbacks.count callback + s.invoked.count callback +
        (frames.flatMap Frame.rest).count callback =
      (List.range s.registered).count callback := by
  rw [← List.count_append, ← List.count_append]
  exact accounted.once.count_eq callback

theorem defers (accounted : Accounted s frames) :
    Accounted (deferCommit s).1 ((deferCommit s).2 ++ frames) := by
  unfold deferCommit
  have early := accounted.early_le
  cases committed : s.committed with
  | false =>
    obtain ⟨nothing, rfl, waiting⟩ := accounted.quiet committed
    refine ⟨?_, fun _ => ⟨nothing, rfl, ?_⟩, nofun, Nat.le_succ_of_le early,
      nofun, accounted.sorted⟩
    · simp [nothing, waiting, List.range_succ]
    · simp [waiting, List.range_succ]
  | true =>
    refine ⟨List.perm_iff_count.mpr fun callback => ?_, nofun,
      fun _ => accounted.taken committed, Nat.le_succ_of_le early,
      List.forall_mem_cons.mpr ⟨.inl ?_, accounted.ordered⟩, accounted.sorted⟩
    · have same := accounted.count callback
      simp [List.range_succ, List.count_cons, Frame.rest] at same ⊢
      omega
    · simpa [Frame.rest] using early

theorem commits (accounted : Accounted s frames) :
    Accounted (commit s).1 ((commit s).2 ++ frames) := by
  unfold commit
  cases committed : s.committed with
  | true => exact accounted
  | false =>
    obtain ⟨nothing, rfl, waiting⟩ := accounted.quiet committed
    refine ⟨?_, nofun, fun _ => rfl, Nat.le_refl _, ?_, ?_⟩ <;> simp [nothing, waiting, Frame.rest]

/-- A loop invokes the next callback. -/
theorem invokes (accounted : Accounted s (.invoking (callback :: rest) :: frames)) :
    Accounted { s with invoked := s.invoked ++ [callback] }
      (.running callback :: .invoking rest :: frames) := by
  have running : s.committed = true :=
    eq_true_of_ne_false fun waiting => by cases (accounted.quiet waiting).2.1
  obtain ⟨own, others⟩ := List.forall_mem_cons.mp accounted.ordered
  have once : (s.callbacks ++ (s.invoked ++ [callback]) ++ (Frame.running
      callback :: .invoking rest :: frames).flatMap Frame.rest).Perm (List.range s.registered) := by
    refine List.perm_iff_count.mpr fun other => ?_
    have same := accounted.count other
    simp [Frame.rest, List.count_cons] at same ⊢
    omega
  rcases own with late | next
  · have filtered : (s.invoked ++ [callback]).filter (· < s.early) =
        s.invoked.filter (· < s.early) := by
      simpa using late callback (by simp [Frame.rest])
    refine ⟨once, by simp [running], accounted.taken, accounted.early_le, ?_,
      filtered ▸ accounted.sorted⟩
    rw [filtered]
    refine List.forall_mem_cons.mpr ⟨.inl nofun, List.forall_mem_cons.mpr ⟨.inl ?_, others⟩⟩
    exact fun other owed => late other (List.mem_cons_of_mem _ owed)
  · simp only [Frame.rest] at next
    have early : callback < s.early := by
      rw [← List.mem_range, ← next]
      simp
    have filtered : (s.invoked ++ [callback]).filter (· < s.early) ++ rest =
        List.range s.early := by
      simpa [early] using next
    refine ⟨once, by simp [running], accounted.taken, accounted.early_le,
      List.forall_mem_cons.mpr ⟨.inl nofun,
        List.forall_mem_cons.mpr ⟨.inr filtered, fun frame member => ?_⟩⟩,
      rest, filtered⟩
    -- No other call has the same callback left.
    refine .inl ((others frame member).resolve_right fun same => ?_)
    have owed : callback ∈ frames.flatMap Frame.rest := by
      refine List.mem_flatMap.mpr ⟨frame, member, ?_⟩
      rw [List.append_cancel_left (same.trans next.symm)]
      exact List.mem_cons_self
    have distinct := accounted.once.nodup_iff.mpr List.nodup_range
    simp [Frame.rest, owed, List.nodup_append] at distinct

/-- A call that has nothing left ends without effect. -/
theorem ends (accounted : Accounted s (frame :: frames))
    (empty : frame.rest = []) : Accounted s frames where
  once := by simpa [empty] using accounted.once
  quiet waiting := by cases (accounted.quiet waiting).2.1
  taken := accounted.taken
  early_le := accounted.early_le
  ordered := (List.forall_mem_cons.mp accounted.ordered).2
  sorted := accounted.sorted

end Accounted

theorem accounted_of_reachable (reachable : Reachable config) :
    Accounted config.1 config.2.flatten := by
  have moved {before after : List Stack} {stack : Stack} :
      (before ++ stack :: after).flatten.Perm (stack ++ (before.flatten ++ after.flatten)) := by
    simpa using List.perm_append_comm_assoc _ _ _
  induction reachable with
  | zero => constructor <;> simp
  | step _ step accounted =>
    cases step with
    | starts => simpa using accounted
    | calls call =>
      obtain ⟨before, after, call⟩ := call
      refine Accounted.perm ?_ moved.symm
      replace accounted := accounted.perm moved
      cases call with
      | defers => simpa using accounted.defers
      | commits => simpa using accounted.commits
    | works work =>
      obtain ⟨before, after, work⟩ := work
      refine Accounted.perm ?_ moved.symm
      replace accounted := accounted.perm moved
      cases work with
      | invokes => exact accounted.invokes
      | finishes | returns => exact accounted.ends rfl
      | panics caught =>
        cases caught
        exact accounted.ends rfl

/-! ### Every call ends -/

/-- The steps that a call can still take. -/
def Frame.work : Frame -> Nat
  | .invoking rest => 2 * rest.length + 1
  | .running _ => 1

/-- The work that is left. -/
def Config.work (config : Config) : Nat :=
  (config.2.flatten.map Frame.work).sum

theorem work_lt (work : Lift Works config next) : next.work < config.work := by
  obtain ⟨before, after, moved⟩ := work
  simp only [Config.work, List.flatten_append, List.flatten_cons, List.map_append, List.sum_append]
  cases moved with
  | invokes =>
    simp [Frame.work]
    omega
  | finishes | returns => simp [Frame.work]
  | panics caught =>
    cases caught
    simp [Frame.work]

/-- A call in progress can always go on. -/
theorem works_of_busy (member : stack ∈ goroutines) (busy : stack ≠ []) :
    ∃ next, Lift Works (s, goroutines) next := by
  obtain ⟨before, after, rfl⟩ := List.append_of_mem member
  match stack with
  | [] => exact absurd rfl busy
  | .invoking [] :: _ => exact ⟨_, .here before after .finishes⟩
  | .invoking (_ :: _) :: _ => exact ⟨_, .here before after .invokes⟩
  | .running _ :: _ => exact ⟨_, .here before after .returns⟩

/-- In every interleaving no callback is invoked twice, none before the first
`Commit`, and those registered before it in the order of registration. Calls in
progress go on and end whatever callbacks panic, and once none is in progress on
a committed settlement, every callback has been invoked. -/
theorem deferred_facts_once (reachable : Reachable (s, goroutines)) :
    s.invoked.Nodup ∧ (∀ callback ∈ s.invoked, callback < s.registered) ∧
    (s.committed = false -> s.invoked = []) ∧
    s.invoked.filter (· < s.early) <+: List.range s.early ∧
    (s.committed = true -> (∀ stack ∈ goroutines, stack = []) ->
      s.invoked.Perm (List.range s.registered)) ∧
    (∀ stack ∈ goroutines, stack ≠ [] -> ∃ next, Lift Works (s, goroutines) next) ∧
    (∀ next, Lift Works (s, goroutines) next -> next.work < Config.work (s, goroutines)) ∧
    ∀ stack ∈ goroutines, ∀ callback outer, stack = .running callback :: outer ->
      unwind stack = some outer := by
  have accounted := accounted_of_reachable reachable
  have nodup := accounted.once.nodup_iff.mpr List.nodup_range
  have invoked := (List.nodup_append.mp (List.nodup_append.mp nodup).1).2.1
  refine ⟨invoked, fun callback member => ?_, fun waiting => (accounted.quiet waiting).1,
    accounted.sorted, ?_, fun _ => works_of_busy, fun _ => work_lt, ?_⟩
  · rw [← List.mem_range, ← accounted.once.mem_iff]
    simp [member]
  · intro committed idle
    have frames : goroutines.flatten = [] := List.flatten_eq_nil_iff.mpr idle
    have taken : s.callbacks = [] := accounted.taken committed
    simpa [taken, frames] using accounted.once
  · rintro _ _ callback outer rfl
    rfl

/-- A callback that panics, registered before `Commit`. -/
theorem deferred_facts_once_panicking :
    ∃ s, Reachable (s, [[]]) ∧ s.committed = true ∧ s.invoked.Perm (List.range 1) := by
  have started : Reachable ({}, [[]]) := .step .zero .starts
  have deferred := started.step (.calls (.here [] [] (.defers trivial)))
  have committed := deferred.step (.calls (.here [] [] (.commits trivial)))
  have invoked := committed.step (.works (.here [] [] .invokes))
  have panicked := invoked.step (.works (.here [] [] (.panics rfl)))
  have ended := panicked.step (.works (.here [] [] .finishes))
  obtain ⟨_, _, _, _, every, _⟩ := deferred_facts_once ended
  exact ⟨_, ended, rfl, every rfl fun _ => List.mem_singleton.mp⟩

end JobQueue.Settlements
