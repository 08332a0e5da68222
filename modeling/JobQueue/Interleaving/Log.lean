import JobQueue.Interleaving.Prog

/-!
# Logs of sequential programs

A program that runs alone leaves a log: the operations it asked for, each with
the answer it was given. The surroundings are known only by the answers they
may give. `Ensures` is partial correctness over logs, and `Leaves` the special
case in which only some operations are looked at.
-/

namespace JobQueue.Interleaving

section Logs

variable {O : Type} {A : O -> Type} {ρ κ β : Type}

/-- An operation with the answer it was given. -/
abbrev Entry (O : Type) (A : O -> Type) : Type := (operation : O) × A operation

/-- Surroundings that answer every operation. -/
structure Environment (O : Type) (A : O -> Type) where
  /-- The answers an operation may be given. -/
  answers : (operation : O) -> A operation -> Prop
  total : ∀ operation, ∃ answer, answers operation answer

/-- Surroundings that answer by a function. -/
def Environment.answering (answer : (operation : O) -> A operation) : Environment O A where
  answers := fun operation given => given = answer operation
  total := fun operation => ⟨answer operation, rfl⟩

/-- The program can run with this log and this result. -/
def Logs (environment : Environment O A) : Prog O A ρ -> List (Entry O A) -> ρ -> Prop
  | .ret returned, log, result => log = [] ∧ result = returned
  | .call operation next, log, result =>
    ∃ answer rest, environment.answers operation answer ∧ log = ⟨operation, answer⟩ :: rest ∧
      Logs environment (next answer) rest result

namespace Logs

@[simp] theorem ret_iff (returned : ρ) (log : List (Entry O A)) (result : ρ) :
    Logs environment (.ret returned) log result ↔ log = [] ∧ result = returned := Iff.rfl

theorem call_iff (operation : O) (next : A operation -> Prog O A ρ)
    (log : List (Entry O A)) (result : ρ) :
    Logs environment (.call operation next) log result ↔ ∃ answer rest,
      environment.answers operation answer ∧ log = ⟨operation, answer⟩ :: rest ∧
      Logs environment (next answer) rest result := Iff.rfl

/-- The log of a sequence is the log of its first part followed by the log of
its second. -/
theorem bind_iff (first : Prog O A ρ) (second : ρ -> Prog O A κ)
    (log : List (Entry O A)) (result : κ) :
    Logs environment (first >>= second) log result ↔ ∃ before middle after, log = before ++ after ∧
        Logs environment first before middle ∧ Logs environment (second middle) after result := by
  induction first generalizing log with
  | ret returned => simp
  | call operation next ih =>
    simp only [Prog.call_bind, call_iff, ih]
    constructor
    · rintro ⟨answer, rest, allowed, rfl, before, middle, after, rfl, first, second⟩
      exact ⟨⟨operation, answer⟩ :: before, middle, after, rfl,
        ⟨answer, before, allowed, rfl, first⟩, second⟩
    · rintro ⟨before, middle, after, rfl, ⟨answer, rest, allowed, rfl, first⟩, second⟩
      exact ⟨answer, rest ++ after, allowed, rfl, rest, middle, after, rfl, first, second⟩

/-- Every program has a run. -/
theorem exists_run (environment : Environment O A) (program : Prog O A ρ) :
    ∃ log result, Logs environment program log result := by
  induction program with
  | ret returned => exact ⟨[], returned, rfl, rfl⟩
  | call operation next ih =>
    obtain ⟨answer, allowed⟩ := environment.total operation
    obtain ⟨rest, result, runs⟩ := ih answer
    exact ⟨⟨operation, answer⟩ :: rest, result, answer, rest, allowed, rfl, runs⟩

/-- The log of a program whose operations are answered by a function. -/
def answered (answer : (operation : O) -> A operation) : Prog O A ρ -> List (Entry O A) × ρ
  | .ret returned => ([], returned)
  | .call operation next =>
    let rest := answered answer (next (answer operation))
    (⟨operation, answer operation⟩ :: rest.1, rest.2)

theorem of_answered (answer : (operation : O) -> A operation) (program : Prog O A ρ) :
    Logs (Environment.answering answer) program
      (answered answer program).1 (answered answer program).2 := by
  induction program with
  | ret returned => exact ⟨rfl, rfl⟩
  | call operation next ih => exact ⟨answer operation, _, rfl, rfl, ih _⟩

end Logs

/-- The log contains a run of the program with this result. -/
def Shows (environment : Environment O A) (program : Prog O A ρ) (result : ρ)
    (log : List (Entry O A)) : Prop :=
  ∃ before part after, log = before ++ (part ++ after) ∧ Logs environment program part result

namespace Shows

theorem append_left (shows : Shows environment program result log) :
    Shows environment program result (earlier ++ log) := by
  obtain ⟨before, part, after, rfl, runs⟩ := shows
  exact ⟨earlier ++ before, part, after, by simp, runs⟩

theorem append_right (shows : Shows environment program result log) :
    Shows environment program result (log ++ later) := by
  obtain ⟨before, part, after, rfl, runs⟩ := shows
  exact ⟨before, part, after ++ later, by simp, runs⟩

end Shows

/-! ## Postconditions over logs -/

/-- Every run of the program ends with a log and a result as described. -/
def Ensures (environment : Environment O A) (program : Prog O A ρ)
    (post : List (Entry O A) -> ρ -> Prop) : Prop :=
  ∀ log result, Logs environment program log result -> post log result

namespace Ensures

theorem ret (holds : post [] returned) : Ensures environment (.ret returned) post := by
  rintro log result ⟨rfl, rfl⟩
  exact holds

theorem weaken {program : Prog O A ρ} (ensures : Ensures environment program strong)
    (implies : ∀ log result, strong log result -> weak log result) :
    Ensures environment program weak :=
  fun log result runs => implies log result (ensures log result runs)

/-- Asking for one operation gives an answer of the surroundings. -/
theorem perform {post : A operation -> Prop}
    (holds : ∀ answer, environment.answers operation answer -> post answer) :
    Ensures environment (Prog.perform operation) fun _ answer =>
      post answer := by
  rintro log result ⟨answer, rest, allowed, rfl, rfl, rfl⟩
  exact holds _ allowed

/-- Asking for one operation logs it with its answer. -/
theorem logged :
    Ensures environment (Prog.perform operation) fun log answer =>
      log = [⟨operation, answer⟩] := by
  rintro log result ⟨answer, rest, _, rfl, rfl, rfl⟩
  rfl

/-- The rule of sequencing. -/
theorem bind {first : Prog O A ρ} (ensuresFirst : Ensures environment first middle)
    (ensuresSecond : ∀ before result, middle before result ->
      Ensures environment (second result) fun after final =>
        post (before ++ after) final) :
    Ensures environment (first >>= second) post := by
  intro log final runs
  obtain ⟨before, result, after, rfl, runsFirst, runsSecond⟩ :=
    (Logs.bind_iff first second log final).mp runs
  exact ensuresSecond before result (ensuresFirst before result runsFirst) after final runsSecond

/-- A run of the program is a run that its log shows. -/
theorem shown (program : Prog O A ρ) :
    Ensures environment program fun log result =>
      Shows environment program result log :=
  fun log _ runs => ⟨[], log, [], by simp, runs⟩

theorem and {program : Prog O A ρ} (ensuresLeft : Ensures environment program left)
    (ensuresRight : Ensures environment program right) :
    Ensures environment program fun log result =>
      left log result ∧ right log result :=
  fun log result runs =>
    ⟨ensuresLeft log result runs, ensuresRight log result runs⟩

end Ensures

variable {listed : O -> Prop}

/-- A program logs only operations that it uses. -/
theorem Uses.ensures {program : Prog O A ρ} (uses : Uses listed program) :
    Ensures environment program fun log _ =>
      ∀ entry ∈ log, listed entry.1 := by
  intro log result runs
  induction program generalizing log with
  | ret returned => simp [runs.1]
  | call operation next ih =>
    obtain ⟨answer, rest, _, rfl, runs⟩ := runs
    simp only [List.mem_cons, forall_eq_or_imp]
    exact ⟨uses.1, ih answer (uses.2 answer) rest runs⟩

/-- A program that keeps to a protocol logs only operations that are listed in
the phases it goes through. -/
theorem Meets.ensures {Q : Type} {moves : Moves O A Q} {program : Prog O A ρ} {phase : Q}
    {post : ρ -> Q -> Prop} {inside : Q -> Prop}
    (meets : Meets moves program phase post) (start : inside phase)
    (step : ∀ before operation answer after, inside before -> moves before operation answer after ->
      inside after ∧ listed operation) :
    Ensures environment program fun log _ =>
      ∀ entry ∈ log, listed entry.1 := by
  intro log result runs
  induction program generalizing phase log with
  | ret returned => simp [runs.1]
  | call operation next ih =>
    obtain ⟨answer, rest, _, rfl, runs⟩ := runs
    obtain ⟨after, moved, meetsRest⟩ := meets answer
    obtain ⟨stays, known⟩ := step phase operation answer after start moved
    simp only [List.mem_cons, forall_eq_or_imp]
    exact ⟨known, ih answer meetsRest stays rest runs⟩

/-! ## Looking at some operations only -/

/-- What an observer of some operations sees of a log. -/
def select (view : O -> Option β) (log : List (Entry O A)) : List β :=
  log.filterMap fun entry => view entry.1

section Select

variable {view : O -> Option β}

@[simp] theorem select_nil : select (A := A) view [] = [] := rfl

@[simp] theorem select_append (before after : List (Entry O A)) :
    select view (before ++ after) = select view before ++ select view after :=
  List.filterMap_append

theorem select_eq_nil {log : List (Entry O A)}
    (unseen : ∀ entry ∈ log, view entry.1 = none) : select view log = [] :=
  List.filterMap_eq_nil_iff.mpr unseen

/-- The program asks for nothing the observer sees. -/
abbrev Unseen (view : O -> Option β) (program : Prog O A ρ) : Prop :=
  Uses (fun operation => view operation = none) program

/-- What the observer sees of every run, and its result, are as described. -/
def Leaves (view : O -> Option β) (environment : Environment O A)
    (program : Prog O A ρ) (post : List β -> ρ -> Prop) : Prop :=
  Ensures environment program fun log result => post (select view log) result

namespace Leaves

theorem ret (holds : post [] returned) : Leaves view environment (.ret returned) post :=
  Ensures.ret holds

theorem weaken {program : Prog O A ρ} (leaves : Leaves view environment program strong)
    (implies : ∀ seen result, strong seen result -> weak seen result) :
    Leaves view environment program weak :=
  Ensures.weaken leaves fun log result => implies (select view log) result

/-- The rule of sequencing for an observer. -/
theorem bind (leavesFirst : Leaves view environment first middle)
    (leavesSecond : ∀ before result, middle before result ->
      Leaves view environment (second result) fun after final =>
        post (before ++ after) final) :
    Leaves view environment (first >>= second) post := by
  refine Ensures.bind leavesFirst fun before result holds => ?_
  refine Ensures.weaken (leavesSecond _ result holds) fun after final met => ?_
  rw [select_append]
  exact met

theorem of_unseen {program : Prog O A ρ} (unseen : Unseen view program) :
    Leaves view environment program fun seen _ => seen = [] :=
  Ensures.weaken (Uses.ensures unseen) fun _ _ => select_eq_nil

/-- An unseen beginning can be skipped. -/
theorem skip (unseen : Unseen view first)
    (leaves : ∀ result, Leaves view environment (second result) post) :
    Leaves view environment (first >>= second) post := by
  refine bind (of_unseen unseen) ?_
  rintro _ result rfl
  exact leaves result

/-- An unseen beginning can be skipped with what is known of its result. -/
theorem skip_knowing {known : ρ -> Prop} (unseen : Unseen view first)
    (ensures : Ensures environment first fun _ result => known result)
    (leaves : ∀ result, known result -> Leaves view environment (second result) post) :
    Leaves view environment (first >>= second) post := by
  refine Ensures.bind (Ensures.and (of_unseen unseen) ensures) ?_
  rintro before result ⟨nothing, knows⟩
  refine Ensures.weaken (leaves result knows) fun after final met => ?_
  rw [select_append, nothing]
  exact met

/-- Asking for one operation. -/
theorem perform :
    Leaves view environment (Prog.perform operation)
      fun seen _ => seen = (view operation).toList := by
  rintro log result ⟨answer, rest, _, rfl, rfl, _⟩
  cases observed : view operation <;> simp [select, observed]

end Leaves
end Select

end Logs

end JobQueue.Interleaving
