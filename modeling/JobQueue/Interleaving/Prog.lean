import Mathlib.Data.List.Basic

/-!
# Sequential programs over abstract operations

A program either returns or asks for one operation and continues with its
answer. Operations are uninterpreted: a machine gives them meaning and decides
when they happen, so the same program text serves every environment.

A protocol describes the operations a program may ask for, phase by phase.
`Meets` says that a program keeps to a protocol whatever it is answered, and
composes along sequencing; it never mentions the state of a machine.
-/

namespace JobQueue.Interleaving

/-- A program over operations `O` with answers `A`, returning a `ρ`. -/
inductive Prog (O : Type) (A : O -> Type) (ρ : Type) : Type
  | ret (result : ρ)
  | call (operation : O) (next : A operation -> Prog O A ρ)

namespace Prog

variable {O : Type} {A : O -> Type} {ρ κ : Type}

/-- Sequencing. -/
def bind : Prog O A ρ -> (ρ -> Prog O A κ) -> Prog O A κ
  | .ret result, continuation => continuation result
  | .call operation next, continuation =>
    .call operation fun answer => bind (next answer) continuation

instance : Monad (Prog O A) where
  pure := .ret
  bind := bind

/-- Ask for one operation and return its answer. -/
def perform (operation : O) : Prog O A (A operation) :=
  .call operation .ret

@[simp] theorem pure_eq : (pure result : Prog O A ρ) = .ret result := rfl

@[simp] theorem ret_bind (result : ρ) (continuation : ρ -> Prog O A κ) :
    (Prog.ret result >>= continuation) = continuation result := rfl

@[simp] theorem call_bind (operation : O) (next : A operation -> Prog O A ρ)
    (continuation : ρ -> Prog O A κ) :
    (Prog.call operation next >>= continuation) =
      .call operation fun answer => next answer >>= continuation := rfl

@[simp] theorem perform_bind (operation : O) (continuation : A operation -> Prog O A κ) :
    (perform operation >>= continuation) = .call operation continuation := rfl

/-- Run a program alone, every operation being answered by a state. -/
def interpret {σ : Type} (answers : (operation : O) -> σ -> Option (A operation × σ)) :
    Prog O A ρ -> σ -> Option (ρ × σ)
  | .ret result, state => some (result, state)
  | .call operation next, state =>
    (answers operation state).bind fun answered =>
      interpret answers (next answered.1) answered.2

section Interpret

variable {σ : Type}

@[simp] theorem interpret_ret (result : ρ) (state : σ) :
    interpret answers (.ret result) state = some (result, state) := rfl

@[simp] theorem interpret_call (operation : O) (next : A operation -> Prog O A ρ) (state : σ) :
    interpret answers (.call operation next) state = (answers operation state).bind fun answered =>
        interpret answers (next answered.1) answered.2 := rfl

@[simp] theorem interpret_perform :
    interpret answers (perform operation) state = answers operation state := by
  cases answered : answers operation state <;> simp [perform, answered]

/-- One program after another. -/
@[simp] theorem interpret_bind (first : Prog O A ρ) (second : ρ -> Prog O A κ) (state : σ) :
    interpret answers (first >>= second) state = (interpret answers first state).bind fun ended =>
        interpret answers (second ended.1) ended.2 := by
  induction first generalizing state with
  | ret result => rfl
  | call operation next ih => simp [ih, Option.bind_assoc]

end Interpret

/-- A program that cannot stop early goes on as it does alone. -/
theorem lift_bind_eq {program : Prog O A ρ} {alone : ρ -> Prog O A κ}
    (same : ∀ result, next result = OptionT.lift (alone result)) :
    (OptionT.lift program >>= next) = OptionT.lift (program >>= alone) := by
  induction program with
  | ret result => exact same result
  | call operation rest ih => exact congrArg (Prog.call operation) (funext ih)

end Prog

/-! ## Protocols -/

section Protocols

variable {O : Type} {A : O -> Type} {ρ κ Q : Type}

/-- Moves of a protocol: a phase, an operation, its answer and a phase the
program may be taken to be in afterwards. -/
abbrev Moves (O : Type) (A : O -> Type) (Q : Type) : Type :=
  Q -> (operation : O) -> A operation -> Q -> Prop

/-- Every operation of the program is a move of the protocol, and its result
meets the postcondition in the phase it ends in. -/
def Meets (moves : Moves O A Q) : Prog O A ρ -> Q -> (ρ -> Q -> Prop) -> Prop
  | .ret result, phase, post => post result phase
  | .call operation next, phase, post =>
    ∀ answer, ∃ after, moves phase operation answer after ∧ Meets moves (next answer) after post

namespace Meets

@[simp] theorem ret_iff (result : ρ) (phase : Q) (post : ρ -> Q -> Prop) :
    Meets moves (Prog.ret result) phase post ↔ post result phase := Iff.rfl

theorem call_iff (operation : O) (next : A operation -> Prog O A ρ)
    (phase : Q) (post : ρ -> Q -> Prop) :
    Meets moves (Prog.call operation next) phase post ↔ ∀ answer, ∃ after,
      moves phase operation answer after ∧ Meets moves (next answer) after post := Iff.rfl

/-- A weaker postcondition is met as well. -/
theorem weaken (meets : Meets moves program phase strong)
    (implies : ∀ result after, strong result after -> weak result after) :
    Meets moves program phase weak := by
  induction program generalizing phase with
  | ret result => exact implies result phase meets
  | call operation next ih =>
    intro answer
    obtain ⟨after, moved, rest⟩ := meets answer
    exact ⟨after, moved, ih answer rest⟩

/-- A protocol is kept in another one that simulates it. -/
theorem simulate {P : Type} {other : Moves O A P} {weak : ρ -> P -> Prop}
    {image : P} (related : Q -> P -> Prop)
    (simulates : ∀ phase operation answer after image, moves phase operation answer after ->
      related phase image -> ∃ later, other image operation answer later ∧ related after later)
    (ends : ∀ result after later, strong result after -> related after later -> weak result later)
    {program : Prog O A ρ} (meets : Meets moves program phase strong)
    (here : related phase image) : Meets other program image weak := by
  induction program generalizing phase image with
  | ret result => exact ends result phase image meets here
  | call operation next ih =>
    intro answer
    obtain ⟨after, moved, rest⟩ := meets answer
    obtain ⟨later, allowed, there⟩ := simulates _ _ _ _ _ moved here
    exact ⟨later, allowed, ih answer rest there⟩

/-- The rule of sequencing. -/
theorem bind (meetsFirst : Meets moves first phase middle)
    (meetsSecond : ∀ result after, middle result after -> Meets moves (second result) after post) :
    Meets moves (first >>= second) phase post := by
  induction first generalizing phase with
  | ret result => exact meetsSecond result phase meetsFirst
  | call operation next ih =>
    intro answer
    obtain ⟨after, moved, rest⟩ := meetsFirst answer
    exact ⟨after, moved, ih answer rest⟩

/-- Asking for one operation and continuing. -/
theorem perform_bind {operation : O} {second : A operation -> Prog O A κ}
    (moved : ∀ answer, ∃ after, moves phase operation answer after ∧
      Meets moves (second answer) after post) :
    Meets moves (Prog.perform operation >>= second) phase post :=
  moved

end Meets

/-- Every operation the program can ask for is one of the given ones. -/
def Uses (listed : O -> Prop) : Prog O A ρ -> Prop
  | .ret _ => True
  | .call operation next => listed operation ∧ ∀ answer, Uses listed (next answer)

namespace Uses

@[simp] theorem ret (result : ρ) : Uses (A := A) listed (Prog.ret result) := trivial

@[simp] theorem call_iff (operation : O) (next : A operation -> Prog O A ρ) :
    Uses listed (Prog.call operation next) ↔
      listed operation ∧ ∀ answer, Uses listed (next answer) := Iff.rfl

@[simp] theorem perform_iff : Uses (A := A) listed (Prog.perform operation) ↔ listed operation := by
  simp [Prog.perform]

theorem bind (usesFirst : Uses listed first) (usesSecond : ∀ result, Uses listed (second result)) :
    Uses listed (first >>= second) := by
  induction first with
  | ret result => exact usesSecond result
  | call operation next ih =>
    exact ⟨usesFirst.1, fun answer =>
      ih answer (usesFirst.2 answer)⟩

theorem weaken (uses : Uses strong program)
    (implies : ∀ operation, strong operation -> weak operation) :
    Uses weak program := by
  induction program with
  | ret result => exact trivial
  | call operation next ih =>
    exact ⟨implies operation uses.1, fun answer =>
      ih answer (uses.2 answer)⟩

/-- Operations that leave a phase as it is leave it so through a whole
program. -/
theorem meets (uses : Uses listed program) {phase : Q}
    (idle : ∀ operation answer, listed operation -> moves phase operation answer phase) :
    Meets moves program phase fun _ after => after = phase := by
  induction program with
  | ret result => rfl
  | call operation next ih =>
    intro answer
    exact ⟨phase, idle operation answer uses.1, ih answer (uses.2 answer)⟩

/-- A program that keeps to a protocol asks only for operations of its moves. -/
theorem of_meets (answered : ∀ operation, Nonempty (A operation))
    (allowed : ∀ phase operation answer after, moves phase operation answer after ->
      listed operation)
    {program : Prog O A ρ} (meets : Meets moves program phase post) : Uses listed program := by
  induction program generalizing phase with
  | ret result => trivial
  | call operation next ih =>
    obtain ⟨answer⟩ := answered operation
    obtain ⟨_, moved, _⟩ := meets answer
    exact ⟨allowed _ _ _ _ moved, fun answer => ih answer (meets answer).choose_spec.2⟩

end Uses
end Protocols

end JobQueue.Interleaving
