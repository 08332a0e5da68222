import JobQueue.Interleaving.Machine

/-!
# Invariants of interleaved programs

The programs of a machine are known by the protocols they keep to. An
invariant has a part about the shared state and a part about each program,
which depends on its phase. It holds along every run if each move of a
protocol keeps the shared part, establishes the part of the phase it leads to
and leaves the parts of all other programs intact.
-/

namespace JobQueue.Interleaving

variable {σ O : Type} {A : O -> Type} {ρ χ ε Q : Type}

/-- The moves of a protocol, the results it allows in each phase and the phases
in which the environment starts programs. -/
structure Protocol (σ O : Type) (A : O -> Type) (ρ ε Q : Type) where
  moves : Moves O A Q
  stop : Q -> ρ -> Prop
  /-- Label and state when the program starts, and the move that starts it. -/
  entry : Nat -> σ -> ε -> Q -> Prop

namespace Protocol

/-- The program keeps to the protocol from a phase on. -/
def Follows (protocol : Protocol σ O A ρ ε Q) (program : Prog O A ρ) (phase : Q) : Prop :=
  Meets protocol.moves program phase fun result after =>
    protocol.stop after result

/-- Every program that the environment starts keeps to the protocol. -/
def Governs (protocol : Protocol σ O A ρ ε Q) (machine : Machine σ O A ρ χ ε) : Prop :=
  ∀ ⦃label : Nat⦄ ⦃before world : σ⦄ ⦃move : ε⦄ ⦃program : Prog O A ρ⦄,
    machine.external label before move = some (world, some program) -> ∃ phase,
    protocol.entry label world move phase ∧ protocol.Follows program phase

end Protocol

/-- Assertions about the shared state and about a program in a phase. -/
structure Assertions (σ Q : Type) where
  shared : Nat -> σ -> Prop
  thread : Nat -> Q -> σ -> Prop

/-- A change of the shared state that keeps what is known of every program
except perhaps one. -/
def Assertions.Frame (assertions : Assertions σ Q) (bound : Nat) (moving : Nat -> Prop)
    (before after : σ) : Prop :=
  ∀ other phase, other < bound -> ¬moving other -> assertions.thread other phase before ->
      assertions.thread other phase after

/-- Every step of a machine that meets the condition leads from what is known to
what is claimed and keeps the frame. -/
structure Assertions.Advance (known claimed : Assertions σ Q)
    (frame : Nat -> (Nat -> Prop) -> σ -> σ -> Prop) (machine : Machine σ O A ρ χ ε)
    (condition : Condition σ O A ε) (protocol : Protocol σ O A ρ ε Q) : Prop where
  operation :
    ∀ {bound label : Nat} {phase after : Q} {before world : σ}
      {operation : O} {answer : A operation} {choice : χ},
      label < bound -> known.shared bound before -> known.thread label phase before ->
      protocol.moves phase operation answer after ->
      machine.exec label before operation choice = some (some answer, world) ->
      condition.operation label before operation answer world ->
      claimed.shared bound world ∧ claimed.thread label after world ∧
        frame bound (· = label) before world
  blocked :
    ∀ {bound label : Nat} {before world : σ} {operation : O} {choice : χ},
      label < bound -> known.shared bound before ->
      machine.exec label before operation choice = some (none, world) ->
      claimed.shared bound world ∧ frame bound (fun _ => False) before world
  finished :
    ∀ {bound label : Nat} {phase : Q} {before world : σ} {result : ρ},
      label < bound -> known.shared bound before -> known.thread label phase before ->
      protocol.stop phase result -> machine.finish label result before = some world ->
      claimed.shared bound world ∧ frame bound (· = label) before world
  idle :
    ∀ {bound : Nat} {before world : σ} {move : ε}, known.shared bound before ->
      machine.external bound before move = some (world, none) ->
      condition.external before move world ->
      claimed.shared bound world ∧ frame bound (fun _ => False) before world
  started :
    ∀ {bound : Nat} {before world : σ} {move : ε} {program : Prog O A ρ} {phase : Q},
      known.shared bound before ->
      machine.external bound before move = some (world, some program) ->
      condition.external before move world -> protocol.entry bound world move phase ->
      claimed.shared (bound + 1) world ∧ claimed.thread bound phase world ∧
        frame bound (fun _ => False) before world

/-- Every step of a machine that meets the condition keeps the assertions. -/
abbrev Assertions.Kept (assertions : Assertions σ Q) (machine : Machine σ O A ρ χ ε)
    (condition : Condition σ O A ε) (protocol : Protocol σ O A ρ ε Q) : Prop :=
  Advance assertions assertions assertions.Frame machine condition protocol

/-- The assertions hold of a configuration. -/
structure Assertions.Hold (assertions : Assertions σ Q) (protocol : Protocol σ O A ρ ε Q)
    (config : Config σ O A ρ) : Prop where
  shared : assertions.shared config.nextLabel config.world
  thread : ∀ label program, KeyedList.find label config.threads = some program ->
      label < config.nextLabel ∧
      ∃ phase, protocol.Follows program phase ∧ assertions.thread label phase config.world

namespace Assertions

variable {assertions : Assertions σ Q} {protocol : Protocol σ O A ρ ε Q}

variable {base : Assertions σ Q}

/-- What is known of a program outlives a change that keeps it. -/
theorem Hold.framed (hold : assertions.Hold protocol config)
    (frame : assertions.Frame config.nextLabel moving config.world world) (still : ¬moving other)
    (found : KeyedList.find other config.threads = some program) :
    other < config.nextLabel ∧ ∃ phase, protocol.Follows program phase ∧
      assertions.thread other phase world := by
  obtain ⟨bounded, phase, follows, known⟩ := hold.thread _ _ found
  exact ⟨bounded, phase, follows, frame other phase bounded still known⟩

/-- Kept assertions hold after every step. -/
theorem Hold.step (governs : protocol.Governs machine)
    (kept : assertions.Kept machine condition protocol) (hold : assertions.Hold protocol config)
    (step : machine.Step condition config next) :
    assertions.Hold protocol next := by
  cases step with
  | @operation label operation continuation choice answer world running executed allowed =>
      obtain ⟨bounded, phase, follows, known⟩ := hold.thread _ _ running
      obtain ⟨after, moved, rest⟩ := follows answer
      obtain ⟨shared, own, frame⟩ := kept.operation bounded hold.shared known moved executed allowed
      refine ⟨shared, ?_⟩
      intro other program found
      simp only [Config.resume] at found
      by_cases same : other = label
      · subst same
        rw [KeyedList.find_replace_self running] at found
        cases found
        exact ⟨bounded, after, rest, own⟩
      · rw [KeyedList.find_replace_of_ne same] at found
        exact hold.framed frame same found
  | blocked running executed =>
    obtain ⟨bounded, _⟩ := hold.thread _ _ running
    obtain ⟨shared, frame⟩ := kept.blocked bounded hold.shared executed
    exact ⟨shared, fun other program => hold.framed frame not_false⟩
  | @finished label result world running settled =>
    obtain ⟨bounded, phase, follows, known⟩ := hold.thread _ _ running
    obtain ⟨shared, frame⟩ := kept.finished bounded hold.shared known follows settled
    refine ⟨shared, ?_⟩
    intro other program found
    simp only [Config.remove] at found
    by_cases same : other = label
    · subst same
      rw [KeyedList.find_erase_self] at found
      cases found
    · rw [KeyedList.find_erase_of_ne same] at found
      exact hold.framed frame same found
  | @external move world started moved allowed =>
    cases started with
    | none =>
      obtain ⟨shared, frame⟩ := kept.idle hold.shared moved allowed
      exact ⟨shared, fun other program => hold.framed frame not_false⟩
    | some program =>
      obtain ⟨phase, entered, follows⟩ := governs moved
      obtain ⟨shared, own, frame⟩ := kept.started hold.shared moved allowed entered
      refine ⟨shared, ?_⟩
      intro other candidate found
      simp only [Config.spawn] at found ⊢
      rw [KeyedList.find_append_singleton] at found
      cases earlier : KeyedList.find other config.threads with
      | some existing =>
        rw [earlier] at found
        cases found
        obtain ⟨bounded, rest⟩ := hold.framed frame not_false earlier
        exact ⟨by omega, rest⟩
      | none =>
        rw [earlier, Option.none_or] at found
        split at found
        · rename_i same
          cases found
          subst same
          exact ⟨by omega, phase, follows, own⟩
        · cases found

/-- Kept assertions hold along every run. -/
theorem Hold.reaches (governs : protocol.Governs machine)
    (kept : assertions.Kept machine condition protocol) (hold : assertions.Hold protocol config)
    (reaches : machine.Reaches condition config last) :
    assertions.Hold protocol last := by
  induction reaches with
  | refl => exact hold
  | tail _ step ih => exact ih.step governs kept step

/-- Assertions hold initially when their shared part does. -/
theorem Hold.initial (shared : assertions.shared 0 world) :
    assertions.Hold protocol (Config.initial world) := by
  refine ⟨shared, ?_⟩
  intro label program found
  cases found

/-! ## Layers -/

/-- Both assertions at once. -/
def and (base extra : Assertions σ Q) : Assertions σ Q where
  shared := fun bound world =>
    base.shared bound world ∧ extra.shared bound world
  thread := fun label phase world =>
    base.thread label phase world ∧ extra.thread label phase world

/-- The lower layer holds where both do. -/
theorem Hold.fst (hold : (base.and extra).Hold protocol config) : base.Hold protocol config := by
  refine ⟨hold.shared.1, ?_⟩
  intro label program found
  obtain ⟨bounded, phase, follows, known⟩ := hold.thread label program found
  exact ⟨bounded, phase, follows, known.1⟩

/-- A change that keeps the upper layer of every program except perhaps one,
where the lower layer is known before. -/
def FrameOver (base extra : Assertions σ Q) (bound : Nat) (moving : Nat -> Prop)
    (before after : σ) : Prop :=
  ∀ other phase, other < bound -> ¬moving other -> base.thread other phase before ->
    extra.thread other phase before -> extra.thread other phase after

theorem Frame.over (lower : base.Frame bound moving before after)
    (upper : base.FrameOver extra bound moving before after) :
    (base.and extra).Frame bound moving before after :=
  fun other phase bounded still known =>
    ⟨lower other phase bounded still known.1, upper other phase bounded still known.1 known.2⟩

/-- Every step keeps the upper layer, given the lower one. -/
abbrev KeptOver (base extra : Assertions σ Q) (machine : Machine σ O A ρ χ ε)
    (condition : Condition σ O A ε) (protocol : Protocol σ O A ρ ε Q) : Prop :=
  Advance (base.and extra) extra (base.FrameOver extra) machine condition protocol

/-- Two layers that are kept one over the other are kept together. -/
theorem Kept.over (lower : base.Kept machine condition protocol)
    (upper : base.KeptOver extra machine condition protocol) :
    (base.and extra).Kept machine condition protocol where
  operation := by
    intro bound label phase after before world operation answer choice
      bounded shared thread moved executed allowed
    obtain ⟨lowerShared, lowerThread, lowerFrame⟩ :=
      lower.operation bounded shared.1 thread.1 moved executed allowed
    obtain ⟨upperShared, upperThread, upperFrame⟩ :=
      upper.operation bounded shared thread moved executed allowed
    exact ⟨⟨lowerShared, upperShared⟩, ⟨lowerThread, upperThread⟩, lowerFrame.over upperFrame⟩
  blocked := by
    intro bound label before world operation choice bounded shared executed
    obtain ⟨lowerShared, lowerFrame⟩ := lower.blocked bounded shared.1 executed
    obtain ⟨upperShared, upperFrame⟩ := upper.blocked bounded shared executed
    exact ⟨⟨lowerShared, upperShared⟩, lowerFrame.over upperFrame⟩
  finished := by
    intro bound label phase before world result bounded shared thread stops settled
    obtain ⟨lowerShared, lowerFrame⟩ := lower.finished bounded shared.1 thread.1 stops settled
    obtain ⟨upperShared, upperFrame⟩ := upper.finished bounded shared thread stops settled
    exact ⟨⟨lowerShared, upperShared⟩, lowerFrame.over upperFrame⟩
  idle := by
    intro bound before world move shared moved allowed
    obtain ⟨lowerShared, lowerFrame⟩ := lower.idle shared.1 moved allowed
    obtain ⟨upperShared, upperFrame⟩ := upper.idle shared moved allowed
    exact ⟨⟨lowerShared, upperShared⟩, lowerFrame.over upperFrame⟩
  started := by
    intro bound before world move program phase shared moved allowed entered
    obtain ⟨lowerShared, lowerThread, lowerFrame⟩ := lower.started shared.1 moved allowed entered
    obtain ⟨upperShared, upperThread, upperFrame⟩ := upper.started shared moved allowed entered
    exact ⟨⟨lowerShared, upperShared⟩, ⟨lowerThread, upperThread⟩, lowerFrame.over upperFrame⟩

/-- Assertions kept under a condition are kept under every stronger one. -/
theorem Kept.strengthen (kept : assertions.Kept machine weak protocol)
    (operation : ∀ {label before operation answer world},
      strong.operation label before operation answer world ->
        weak.operation label before operation answer world)
    (external : ∀ {before move world},
      strong.external before move world -> weak.external before move world) :
    assertions.Kept machine strong protocol where
  operation := fun bounded shared thread moved executed allowed =>
    kept.operation bounded shared thread moved executed (operation allowed)
  blocked := kept.blocked
  finished := kept.finished
  idle := fun shared moved allowed =>
    kept.idle shared moved (external allowed)
  started := fun shared moved allowed =>
    kept.started shared moved (external allowed)

/-- Assertions kept by every step are kept under any condition. -/
theorem Kept.restrict (kept : assertions.Kept machine .always protocol) :
    assertions.Kept machine condition protocol :=
  kept.strengthen (fun _ => trivial) (fun _ => trivial)

/-! ## Relations between states of a run -/

/-- Every step relates the states before and after it, given the assertions. -/
structure Relates (assertions : Assertions σ Q)
    (machine : Machine σ O A ρ χ ε) (condition : Condition σ O A ε)
    (protocol : Protocol σ O A ρ ε Q) (relation : σ -> σ -> Prop) : Prop where
  operation :
    ∀ {bound label : Nat} {phase after : Q} {before world : σ}
      {operation : O} {answer : A operation} {choice : χ},
      label < bound ->
      assertions.shared bound before ->
      assertions.thread label phase before ->
      protocol.moves phase operation answer after ->
      machine.exec label before operation choice = some (some answer, world) ->
      condition.operation label before operation answer world -> relation before world
  blocked :
    ∀ {label : Nat} {before world : σ} {operation : O} {choice : χ},
      machine.exec label before operation choice = some (none, world) -> relation before world
  finished :
    ∀ {label : Nat} {before world : σ} {result : ρ},
      machine.finish label result before = some world -> relation before world
  external :
    ∀ {bound : Nat} {before world : σ} {move : ε}
      {started : Option (Prog O A ρ)},
      machine.external bound before move = some (world, started) ->
      condition.external before move world -> relation before world

theorem Hold.relates_step (relates : assertions.Relates machine condition protocol relation)
    (hold : assertions.Hold protocol config) (step : machine.Step condition config next) :
    relation config.world next.world := by
  cases step with
  | @operation label operation continuation choice answer world running executed allowed =>
      obtain ⟨bounded, phase, follows, known⟩ := hold.thread _ _ running
      obtain ⟨after, moved, _⟩ := follows answer
      exact relates.operation bounded hold.shared known moved executed allowed
  | blocked running executed => exact relates.blocked executed
  | finished running settled => exact relates.finished settled
  | @external move world started moved allowed =>
    have related := relates.external moved allowed
    cases started <;> exact related

/-- What relates the states around every step relates the ends of every run,
if the relation is a preorder. -/
theorem Hold.relates (governs : protocol.Governs machine)
    (kept : assertions.Kept machine condition protocol)
    (relates : assertions.Relates machine condition protocol relation)
    (refl : ∀ state, relation state state)
    (trans : ∀ {first second third}, relation first second ->
      relation second third -> relation first third)
    (hold : assertions.Hold protocol config)
    (reaches : machine.Reaches condition config last) :
    relation config.world last.world := by
  induction reaches with
  | refl => exact refl _
  | tail before step ih =>
    exact trans ih ((hold.reaches governs kept before).relates_step relates step)

end Assertions

end JobQueue.Interleaving
