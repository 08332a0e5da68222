import JobQueue.Interleaving.Machine

/-!
# Running programs to their end

A program can be run alone as its operations are answered. A machine that can
answer every operation in every state can run all its programs until they have
returned.
-/

namespace JobQueue.Interleaving

variable {σ O : Type} {A : O -> Type} {ρ χ ε : Type}

/-- One program of a configuration was run; the others stand where they
stood. -/
structure Config.Advanced (label : Nat) (before after : Config σ O A ρ) : Prop where
  nextLabel : after.nextLabel = before.nextLabel
  others : ∀ other, other ≠ label ->
    KeyedList.find other after.threads = KeyedList.find other before.threads

theorem Config.Advanced.refl (label : Nat) (config : Config σ O A ρ) :
    config.Advanced label config :=
  ⟨rfl, fun _ _ => rfl⟩

theorem Config.Advanced.resume {config last : Config σ O A ρ} {world : σ}
    (advanced : (config.resume label world program).Advanced label last) :
    config.Advanced label last where
  nextLabel := advanced.nextLabel
  others := by
    intro other different
    rw [advanced.others other different]
    exact KeyedList.find_replace_of_ne different

/-- The program under a label, if there is one, has returned. -/
def Config.Returned (config : Config σ O A ρ) (label : Nat) : Prop :=
  ∀ program, KeyedList.find label config.threads = some program -> ∃ result, program = .ret result

theorem Config.find_resume (config : Config σ O A ρ)
    (running : KeyedList.find label config.threads = some program) (world : σ) (next : Prog O A ρ) :
    KeyedList.find label (config.resume label world next).threads = some next :=
  KeyedList.find_replace_self running

namespace Machine

variable {machine : Machine σ O A ρ χ ε}

/-- The answers are possible for a program. -/
def Answers (machine : Machine σ O A ρ χ ε) (condition : Condition σ O A ε) (label : Nat)
    (answers : (operation : O) -> σ -> Option (A operation × σ)) : Prop :=
  ∀ operation before answer after, answers operation before = some (answer, after) -> ∃ choice,
        machine.exec label before operation choice = some (some answer, after) ∧
        condition.operation label before operation answer after

/-- A program can be run alone to the result of its interpretation. -/
theorem Reaches.of_interpret (possible : machine.Answers condition label answers)
    (running : KeyedList.find label config.threads = some program)
    (ran : Prog.interpret answers program config.world = some (result, world)) :
    ∃ last, machine.Reaches condition config last ∧ last.world = world ∧
      KeyedList.find label last.threads = some (.ret result) ∧ config.Advanced label last := by
  induction program generalizing config with
  | ret returned =>
    cases ran
    exact ⟨config, .refl, rfl, running, .refl label config⟩
  | call operation next ih =>
    obtain ⟨⟨answer, after⟩, answered, rest⟩ := Option.bind_eq_some_iff.mp ran
    obtain ⟨choice, executed, allowed⟩ := possible operation config.world answer after answered
    have resumed := config.find_resume running after (next answer)
    obtain ⟨last, reached, same, ended, advanced⟩ := ih answer resumed rest
    exact ⟨last, .head (.operation running executed allowed) reached, same, ended, advanced.resume⟩

/-- Every operation can be answered in every state. -/
def Responsive (machine : Machine σ O A ρ χ ε) (condition : Condition σ O A ε) : Prop :=
  ∀ label before operation, ∃ choice answer after,
    machine.exec label before operation choice = some (some answer, after) ∧
    condition.operation label before operation answer after

/-- A program of a responsive machine can be run until it has returned. -/
theorem Responsive.returns (responsive : machine.Responsive condition)
    (running : KeyedList.find label config.threads = some program) :
    ∃ last result, machine.Reaches condition config last ∧
      KeyedList.find label last.threads = some (.ret result) ∧ config.Advanced label last := by
  induction program generalizing config with
  | ret result => exact ⟨config, result, .refl, running, .refl label config⟩
  | call operation next ih =>
    obtain ⟨choice, answer, after, executed, allowed⟩ := responsive label config.world operation
    have resumed := config.find_resume running after (next answer)
    obtain ⟨last, result, reached, ended, advanced⟩ := ih answer resumed
    exact ⟨last, result, .head (.operation running executed allowed) reached, ended,
      advanced.resume⟩

/-- A responsive machine can run the listed programs until they have
returned. -/
theorem Responsive.returns_all (responsive : machine.Responsive condition) (labels : List Nat) :
    ∃ last, machine.Reaches condition config last ∧ last.nextLabel = config.nextLabel ∧
      (∀ label ∈ labels, last.Returned label) ∧ ∀ label, label ∉ labels ->
      KeyedList.find label last.threads = KeyedList.find label config.threads := by
  induction labels with
  | nil => exact ⟨config, .refl, rfl, by simp, fun _ _ => rfl⟩
  | cons label labels ih =>
    obtain ⟨middle, reached, same, returned, others⟩ := ih
    cases running : KeyedList.find label middle.threads with
    | none =>
      refine ⟨middle, reached, same, ?_, ?_⟩
      · rintro other (_ | ⟨_, member⟩)
        · intro program found
          rw [running] at found
          cases found
        · exact returned other member
      · intro other outside
        exact others other fun member =>
          outside (List.mem_cons_of_mem _ member)
    | some program =>
      obtain ⟨last, result, ran, ended, advanced⟩ := responsive.returns running
      refine ⟨last, reached.trans ran, advanced.nextLabel.trans same, ?_, ?_⟩
      · intro other member
        by_cases equal : other = label
        · subst equal
          intro found present
          rw [ended] at present
          cases present
          exact ⟨result, rfl⟩
        · have earlier := (List.mem_cons.mp member).resolve_left equal
          intro found present
          rw [advanced.others other equal] at present
          exact returned other earlier found present
      · intro other outside
        rw [advanced.others other fun equal => outside (by simp [equal])]
        exact others other fun member =>
          outside (List.mem_cons_of_mem _ member)

/-- A responsive machine can run all its programs until they have returned. -/
theorem Responsive.quiesces (responsive : machine.Responsive condition) :
    ∃ last, machine.Reaches condition config last ∧
      last.nextLabel = config.nextLabel ∧ ∀ label, last.Returned label := by
  obtain ⟨last, reached, same, returned, others⟩ :=
    responsive.returns_all (config.threads.map Prod.fst)
  refine ⟨last, reached, same, ?_⟩
  intro label
  by_cases listed : label ∈ config.threads.map Prod.fst
  · exact returned label listed
  · intro program found
    rw [others label listed] at found
    have member := KeyedList.mem_of_find_eq_some found
    exact absurd (List.mem_map_of_mem (f := Prod.fst) member) listed

end Machine

end JobQueue.Interleaving
