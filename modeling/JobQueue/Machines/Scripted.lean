import Mathlib.Logic.Relation

/-!
# Protocols that follow a script of results

A protocol shows a value, receives a result and moves on, until it stops. Its
trace on a script of results is what it shows and where it ends. A system
implements the protocol if every run of it shows the trace of the results that
it has consumed, and if it can always go on to consume the next one.
-/

namespace JobQueue.Scripted

variable {Q V R σ : Type}

/-- What is shown in each state, unless it is a final one, and how a result
moves on. -/
structure Protocol (Q V R : Type) where
  shows : Q -> Option V
  advance : Q -> R -> Q

/-- The values shown on a script and the state reached. -/
def trace (protocol : Protocol Q V R) : Q -> List R -> List V × Q
  | state, [] => ([], state)
  | state, result :: rest =>
    match protocol.shows state with
    | none => ([], state)
    | some value =>
      let later := trace protocol (protocol.advance state result) rest
      (value :: later.1, later.2)

theorem trace_of_stopped (stopped : protocol.shows state = none) :
    trace protocol state results = ([], state) := by
  cases results with
  | nil => rfl
  | cons result rest => simp [trace, stopped]

theorem trace_cons (shown : protocol.shows state = some value) (rest : List R) :
    trace protocol state (result :: rest) =
      (value :: (trace protocol (protocol.advance state result) rest).1,
        (trace protocol (protocol.advance state result) rest).2) := by
  simp [trace, shown]

theorem trace_append :
    trace protocol state (first ++ second) = ((trace protocol state first).1 ++
          (trace protocol (trace protocol state first).2 second).1,
        (trace protocol (trace protocol state first).2 second).2) := by
  induction first generalizing state with
  | nil => rfl
  | cons result rest ih =>
    cases shown : protocol.shows state with
    | none => simp [trace_of_stopped shown]
    | some value =>
      rw [List.cons_append, trace_cons shown, trace_cons shown, ih]
      rfl

/-- A system with the results it has not consumed yet and the values it has
shown so far. -/
structure Session (σ V R : Type) where
  state : σ
  script : List R
  shown : List V

/-- Every step of a system leaves the protocol alone or consumes one result of
the script as the protocol does, and the system can always go on. -/
structure Implements (protocol : Protocol Q V R) (step : Session σ V R -> Session σ V R -> Prop)
    (progress : Session σ V R -> Q -> Prop) : Prop where
  sound : ∀ {session next : Session σ V R} {state : Q}, progress session state ->
    step session next ->
    (next.script = session.script ∧ next.shown = session.shown ∧ progress next state) ∨
    ∃ value result, protocol.shows state = some value ∧ session.script = result :: next.script ∧
    next.shown = session.shown ++ [value] ∧ progress next (protocol.advance state result)
  live : ∀ {session : Session σ V R} {state : Q} {value : V} {result : R}
      {rest : List R},
    progress session state -> protocol.shows state = some value ->
    session.script = result :: rest -> ∃ next, Relation.ReflTransGen step session next ∧
        next.script = rest ∧ next.shown = session.shown ++ [value] ∧
        progress next (protocol.advance state result)

namespace Implements

/-- Every run shows the trace of what it has consumed, one value for each
result. -/
theorem trace_of_run (implements : Implements protocol step progress) {state : Q}
    (started : progress session state) (reached : Relation.ReflTransGen step session last) :
    ∃ used, session.script = used ++ last.script ∧
      (trace protocol state used).1.length = used.length ∧
      last.shown = session.shown ++ (trace protocol state used).1 ∧
      progress last (trace protocol state used).2 := by
  induction reached with
  | refl => exact ⟨[], rfl, rfl, by simp [trace], started⟩
  | tail _ stepped ih =>
    obtain ⟨used, consumed, counted, shown, current⟩ := ih
    rcases implements.sound current stepped with
      ⟨script, same, kept⟩ | ⟨value, result, shows, script, added, moved⟩
    · exact ⟨used, script ▸ consumed, counted, same.trans shown, kept⟩
    · refine ⟨used ++ [result], ?_, ?_, ?_, ?_⟩
      · rw [consumed, script, List.append_assoc]
        rfl
      · rw [trace_append, trace_cons shows]
        simp [trace, counted]
      · rw [added, shown, trace_append, trace_cons shows]
        simp [trace]
      · rw [trace_append, trace_cons shows]
        exact moved

/-- Some run shows the trace of the whole script. -/
theorem run_of_trace (implements : Implements protocol step progress) :
    ∀ {session : Session σ V R} {state : Q}, progress session state -> session.script = script ->
      ∃ last, Relation.ReflTransGen step session last ∧
      last.shown = session.shown ++ (trace protocol state script).1 ∧
      progress last (trace protocol state script).2 := by
  induction script with
  | nil =>
    intro session state started _
    exact ⟨session, .refl, by simp [trace], started⟩
  | cons result rest ih =>
    intro session state started same
    cases shows : protocol.shows state with
    | none =>
      rw [trace_of_stopped shows]
      exact ⟨session, .refl, by simp, started⟩
    | some value =>
      obtain ⟨next, reached, script, shown, moved⟩ := implements.live started shows same
      obtain ⟨last, continued, later, ended⟩ := ih moved script
      refine ⟨last, reached.trans continued, ?_, ?_⟩
      · rw [later, shown, trace_cons shows]
        simp
      · rw [trace_cons shows]
        exact ended

end Implements

end JobQueue.Scripted
