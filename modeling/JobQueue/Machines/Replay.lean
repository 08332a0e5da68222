import Mathlib.Data.List.Basic

/-!
# Replaying calls on a deterministic machine

A machine is a function from a state and a call to the next state. A history
is a list of calls that each satisfied a condition on the state they were made
in. Invariants of runs and of histories follow from one step.
-/

namespace JobQueue.Replay

variable {σ κ ω : Type}

/-- The state after a list of calls. -/
def run (apply : σ -> κ -> σ) (state : σ) (calls : List κ) : σ :=
  calls.foldl apply state

/-- The outputs of a list of calls, in call order. -/
def outputs (apply : σ -> κ -> σ) (output : σ -> κ -> Option ω) : σ -> List κ -> List ω
  | _, [] => []
  | state, call :: calls =>
    (output state call).toList ++ outputs apply output (apply state call) calls

/-- Every call is allowed in the state it is made in. -/
def History (apply : σ -> κ -> σ) (allowed : σ -> κ -> Prop) : σ -> List κ -> Prop
  | _, [] => True
  | state, call :: calls => allowed state call ∧ History apply allowed (apply state call) calls

instance decidableHistory (apply : σ -> κ -> σ) (allowed : σ -> κ -> Prop)
    [∀ state call, Decidable (allowed state call)] :
    (state : σ) -> (calls : List κ) -> Decidable (History apply allowed state calls)
  | _, [] => isTrue trivial
  | state, call :: calls =>
    have := decidableHistory apply allowed (apply state call) calls
    inferInstanceAs (Decidable (allowed state call ∧
        History apply allowed (apply state call) calls))

@[simp] theorem run_nil (apply : σ -> κ -> σ) (state : σ) : run apply state [] = state := rfl

@[simp] theorem run_cons (apply : σ -> κ -> σ) (state : σ) (call : κ) (calls : List κ) :
    run apply state (call :: calls) = run apply (apply state call) calls := rfl

theorem run_append (apply : σ -> κ -> σ) (state : σ) (first second : List κ) :
    run apply state (first ++ second) = run apply (run apply state first) second :=
  List.foldl_append

/-- A property kept by every call holds after every run. -/
theorem run_invariant {apply : σ -> κ -> σ} {invariant : σ -> Prop}
    (step : ∀ state call, invariant state -> invariant (apply state call))
    (start : invariant state) :
    invariant (run apply state calls) := by
  induction calls generalizing state with
  | nil => exact start
  | cons call calls ih => exact ih (step state call start)

/-- A property of the calls made so far and the state they lead to, kept by
every call, holds after every run. -/
theorem run_trace_invariant {apply : σ -> κ -> σ} (invariant : List κ -> σ -> Prop)
    (step : ∀ made state call,
      invariant made state -> invariant (made ++ [call]) (apply state call))
    (start : invariant made state) (calls : List κ) :
    invariant (made ++ calls) (run apply state calls) := by
  induction calls generalizing made state with
  | nil =>
    rw [List.append_nil]
    exact start
  | cons call calls ih =>
    have next := ih (step made state call start)
    rw [List.append_assoc, List.singleton_append] at next
    exact next

section Histories

variable {apply : σ -> κ -> σ} {allowed : σ -> κ -> Prop}
  (output : σ -> κ -> Option ω) (kept : List κ -> List ω -> σ -> Prop)
  (step : ∀ made given state call,
    allowed state call -> kept made given state ->
      kept (made ++ [call]) (given ++ (output state call).toList) (apply state call))

include step in
private theorem History.invariant_from (history : History apply allowed state calls)
    (start : kept made given state) :
    kept (made ++ calls) (given ++ outputs apply output state calls) (run apply state calls) := by
  induction calls generalizing made given state with
  | nil =>
    rw [List.append_nil, outputs, List.append_nil]
    exact start
  | cons call calls ih =>
    obtain ⟨permitted, rest⟩ := history
    have next := ih rest (step made given state call permitted start)
    rw [List.append_assoc, List.singleton_append, List.append_assoc] at next
    exact next

include step in
/-- A property of the calls made, the outputs given and the state reached, kept
by every allowed call, holds along every history. -/
theorem History.invariant (history : History apply allowed state calls) (start : kept [] [] state) :
    kept calls (outputs apply output state calls) (run apply state calls) :=
  invariant_from output kept step history start

end Histories

end JobQueue.Replay
