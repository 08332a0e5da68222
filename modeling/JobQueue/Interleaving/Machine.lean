import JobQueue.Collections.KeyedList
import JobQueue.Interleaving.Prog
import Mathlib.Logic.Relation

/-!
# Machines that interleave programs

A machine runs any number of programs over one shared state. A step performs
one operation of one program, settles one program that has returned, or is made
by the environment, which may start a program. Labels of programs are never
reused. An operation may also take steps before it is answered.

Assumptions about runs are conditions on steps: `Machine.Step` is the relation
of the steps that meet one, and `Machine.step` performs them.
-/

namespace JobQueue.Interleaving

/-- The meaning of operations, of returning and of the environment. `χ` are
the choices an operation leaves open and `ε` the moves of the environment. -/
structure Machine (σ O : Type) (A : O -> Type) (ρ χ ε : Type) where
  /-- Perform an operation, with an answer unless the program stays blocked. -/
  exec : Nat -> σ -> (operation : O) -> χ -> Option (Option (A operation) × σ)
  /-- Settle a program that returned. -/
  finish : Nat -> ρ -> σ -> Option σ
  /-- A move of the environment, given the label of a program it may start. -/
  external : Nat -> σ -> ε -> Option (σ × Option (Prog O A ρ))

/-- Shared state and the programs running on it. -/
structure Config (σ O : Type) (A : O -> Type) (ρ : Type) where
  world : σ
  threads : List (Nat × Prog O A ρ)
  nextLabel : Nat

/-- What the scheduler does next. -/
inductive Action (χ ε : Type)
  | run (label : Nat) (choice : χ)
  | external (move : ε)
  deriving DecidableEq, Repr

variable {σ O : Type} {A : O -> Type} {ρ χ ε : Type}

/-- A configuration in which nothing has happened. -/
def Config.initial (world : σ) : Config σ O A ρ :=
  { world := world, threads := [], nextLabel := 0 }

/-- The configuration after a program was started. -/
def Config.spawn (config : Config σ O A ρ) (world : σ) : Option (Prog O A ρ) -> Config σ O A ρ
  | none => { config with world := world }
  | some program =>
    { world := world
      threads := config.threads ++ [(config.nextLabel, program)]
      nextLabel := config.nextLabel + 1 }

/-- The configuration after a program moved on. -/
def Config.resume (config : Config σ O A ρ) (label : Nat) (world : σ)
    (program : Prog O A ρ) : Config σ O A ρ :=
  { config with world := world, threads := KeyedList.replace label program config.threads }

/-- The configuration after a program was settled. -/
def Config.remove (config : Config σ O A ρ) (label : Nat) (world : σ) : Config σ O A ρ :=
  { config with world := world, threads := KeyedList.erase label config.threads }

/-- A condition on the steps of a run. -/
structure Condition (σ O : Type) (A : O -> Type) (ε : Type) where
  operation : Nat -> σ -> (operation : O) -> A operation -> σ -> Prop
  external : σ -> ε -> σ -> Prop

/-- The condition that every step meets. -/
def Condition.always : Condition σ O A ε where
  operation := fun _ _ _ _ _ => True
  external := fun _ _ _ => True

/-- Conditions that can be tested. -/
class Condition.Testable (condition : Condition σ O A ε) where
  operation : ∀ label before operation answer after,
    Decidable (condition.operation label before operation answer after)
  external : ∀ before move after, Decidable (condition.external before move after)

instance Condition.testableAlways : Condition.Testable (Condition.always : Condition σ O A ε) where
  operation := fun _ _ _ _ _ => .isTrue trivial
  external := fun _ _ _ => .isTrue trivial

namespace Machine

/-- One step that meets a condition. -/
inductive Step (machine : Machine σ O A ρ χ ε) (condition : Condition σ O A ε) :
    Config σ O A ρ -> Config σ O A ρ -> Prop
  | operation
      {config : Config σ O A ρ} {label : Nat} {operation : O}
      {next : A operation -> Prog O A ρ} {choice : χ}
      {answer : A operation} {world : σ}
      (running : KeyedList.find label config.threads = some (.call operation next))
      (executed : machine.exec label config.world operation choice = some (some answer, world))
      (allowed : condition.operation label config.world operation answer world) :
      Step machine condition config (config.resume label world (next answer))
  | blocked
      {config : Config σ O A ρ} {label : Nat} {operation : O}
      {next : A operation -> Prog O A ρ} {choice : χ} {world : σ}
      (running : KeyedList.find label config.threads = some (.call operation next))
      (executed : machine.exec label config.world operation choice = some (none, world)) :
      Step machine condition config { config with world := world }
  | finished
      {config : Config σ O A ρ} {label : Nat} {result : ρ} {world : σ}
      (running : KeyedList.find label config.threads = some (.ret result))
      (settled : machine.finish label result config.world = some world) :
      Step machine condition config (config.remove label world)
  | external
      {config : Config σ O A ρ} {move : ε} {world : σ}
      {started : Option (Prog O A ρ)}
      (moved : machine.external config.nextLabel config.world move = some (world, started))
      (allowed : condition.external config.world move world) :
      Step machine condition config (config.spawn world started)

variable (machine : Machine σ O A ρ χ ε) (condition : Condition σ O A ε)

/-- Configurations reached by runs whose steps all meet a condition. -/
def Reaches : Config σ O A ρ -> Config σ O A ρ -> Prop :=
  Relation.ReflTransGen (machine.Step condition)

/-! ## Executable runs -/

/-- One step chosen by the scheduler, if it is possible and meets the
condition. -/
def step [tests : condition.Testable] (config : Config σ O A ρ) :
    Action χ ε -> Option (Config σ O A ρ)
  | .run label choice =>
    match KeyedList.find label config.threads with
    | none => none
    | some (.ret result) => (machine.finish label result config.world).map (config.remove label)
    | some (.call operation next) =>
      match machine.exec label config.world operation choice with
      | none => none
      | some (none, world) => some { config with world := world }
      | some (some answer, world) =>
        match tests.operation label config.world operation answer world with
        | .isTrue _ => some (config.resume label world (next answer))
        | .isFalse _ => none
  | .external move =>
    match machine.external config.nextLabel config.world move with
    | none => none
    | some (world, started) =>
      match tests.external config.world move world with
      | .isTrue _ => some (config.spawn world started)
      | .isFalse _ => none

/-- The configuration after a schedule, if every step of it is possible and
meets the condition. -/
def run (machine : Machine σ O A ρ χ ε) (condition : Condition σ O A ε) [condition.Testable] :
    Config σ O A ρ -> List (Action χ ε) -> Option (Config σ O A ρ)
  | config, [] => some config
  | config, action :: actions =>
    (machine.step condition config action).bind fun next =>
      machine.run condition next actions

variable {machine condition} [condition.Testable]

/-- An executable step is a step. -/
theorem Step.of_step (stepped : machine.step condition config action = some next) :
    machine.Step condition config next := by
  cases action with
  | run label choice =>
    simp only [step] at stepped
    split at stepped
    · cases stepped
    · rename_i result running
      obtain ⟨world, settled, rfl⟩ := Option.map_eq_some_iff.mp stepped
      exact .finished running settled
    · rename_i operation continuation running
      split at stepped
      · cases stepped
      · rename_i world executed
        cases stepped
        exact .blocked running executed
      · rename_i answer world executed
        split at stepped
        · rename_i allowed _
          cases stepped
          exact .operation running executed allowed
        · cases stepped
  | external move =>
    simp only [step] at stepped
    split at stepped
    · cases stepped
    · rename_i world started moved
      split at stepped
      · rename_i allowed _
        cases stepped
        exact .external moved allowed
      · cases stepped

/-- An executable run is a run. -/
theorem Reaches.of_run (ran : machine.run condition config actions = some last) :
    machine.Reaches condition config last := by
  induction actions generalizing config with
  | nil =>
    cases ran
    exact .refl
  | cons action actions ih =>
    obtain ⟨next, stepped, rest⟩ := Option.bind_eq_some_iff.mp ran
    exact .head (.of_step stepped) (ih rest)

/-- A test passed at the end of an executable run is passed in a reachable
configuration. -/
theorem Reaches.of_any {test : Config σ O A ρ -> Bool}
    (passed : (machine.run condition config actions).any test = true) :
    ∃ last, machine.Reaches condition config last ∧ test last = true := by
  cases ran : machine.run condition config actions with
  | none =>
    rw [ran] at passed
    cases passed
  | some last =>
    rw [ran] at passed
    exact ⟨last, .of_run ran, passed⟩

/-- What is decided at the end of an executable run holds in a reachable
configuration. -/
theorem Reaches.of_decide {property : Config σ O A ρ -> Prop} [DecidablePred property]
    (actions : List (Action χ ε))
    (passed : (machine.run condition config actions).any (decide <| property ·) = true) :
    ∃ last, machine.Reaches condition config last ∧ property last := by
  obtain ⟨last, reached, holds⟩ := of_any passed
  exact ⟨last, reached, of_decide_eq_true holds⟩

end Machine

end JobQueue.Interleaving
