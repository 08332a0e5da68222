import JobQueue.Workflow.Protocol

/-!
# What one step of the machine changes

Every operation touches one aspect of the world and leaves the others alone.
The history only grows, and what it gains carries the label of the program
that moved. Statements about runs use these facts and the inversions below;
none of them unfolds the machine.
-/

namespace JobQueue.Workflow

open Interleaving

/-! ## Aspects -/

/-- The parts of the world an operation can touch. -/
inductive Aspect
  | nothing
  | ids
  | facts
  | starts
  | registry
  | transport
  | store
  deriving DecidableEq, Repr

/-- The part of the world that an operation touches. -/
def Op.aspect : Op -> Aspect
  | .newID _ => .ids
  | .emit _ _ => .facts
  | .handle _ => .starts
  | .registry _ => .registry
  | .busDispatch _ _ => .transport
  | .memory _ => .store
  | .sql _ => .store
  | _ => .nothing

namespace World

/-- Two worlds agree on everything but the aspect of an operation. -/
structure Touched (operation : Op) (before after : World) : Prop where
  clock : after.clock = before.clock
  handling : after.handling = before.handling
  generations : after.generations = before.generations
  returned : after.returned = before.returned
  ids : operation.aspect ≠ .ids -> after.ids = before.ids
  facts : operation.aspect ≠ .facts -> after.facts = before.facts
  starts : operation.aspect ≠ .starts -> after.starts = before.starts
  broker : operation.aspect ≠ .transport -> after.broker = before.broker
  produced : operation.aspect ≠ .transport -> after.produced = before.produced
  rejected : operation.aspect ≠ .transport -> after.rejected = before.rejected
  backend : operation.aspect ≠ .store -> after.backend = before.backend
  transitions : operation.aspect ≠ .store -> after.transitions = before.transitions

section Commit

variable (w : World) (label : Nat) (target : Target) (after : Backend)

@[simp] theorem commit_backend : (w.commit label target after).backend = after := rfl

@[simp] theorem commit_transitions :
    (w.commit label target after).transitions = (target.transitions w.backend after).map
        (fun entry => (label, entry)) ++ w.transitions := rfl

end Commit

section Transport

variable (w : World) (label : Nat) (message : Message) (outcome : Enqueue)

theorem enqueue_eq :
    w.enqueue message outcome =
      { w with
        broker := (w.enqueue message outcome).broker
        produced := (w.enqueue message outcome).produced } := by
  unfold enqueue produce
  split <;> rfl

/-- The world after an enqueue. -/
def post : World :=
  (w.enqueue message outcome).noteRejection label message outcome

theorem post_eq :
    w.post label message outcome =
      { w with
        broker := (w.enqueue message outcome).broker
        produced := (w.enqueue message outcome).produced
        rejected := (w.post label message outcome).rejected } := by
  unfold post noteRejection
  split <;> rw [enqueue_eq]

end Transport

/-! ## Inversions -/

theorem exec_newID {id : String}
    (executed : exec label w (.newID kind) choice = some (some id, after)) :
    KeyedList.find id w.ids = none ∧ id ≠ "" ∧ after = { w with ids := (id, label) :: w.ids } := by
  cases choice with
  | suffix text =>
    simp only [exec] at executed
    split at executed
    · cases executed
    · rename_i fresh
      cases executed
      refine ⟨by simpa using fresh, ?_, rfl⟩
      intro empty
      have lengths := congrArg String.length empty
      have one : "_".length = 1 := rfl
      have zero : "".length = 0 := rfl
      simp only [String.length_append, one, zero] at lengths
      omega
  | _ => cases executed

theorem exec_emit
    (executed : exec label w (.emit event deferred) choice = some (some answer, after)) :
    after = { w with facts := (label, event) :: w.facts } := by
  cases choice <;> cases executed
  rfl

theorem exec_handle (executed : exec label w (.handle env) choice = some (some error, after)) :
    after = w.start label env := by
  cases choice <;> cases executed
  rfl

theorem exec_busDispatch
    (executed : exec label w (.busDispatch kind env) choice = some (some answer, after)) :
    ∃ outcome : Enqueue, outcome.possible = true ∧ answer = outcome.answer ∧
      after = w.post label { kind := kind, env := env } outcome := by
  cases choice with
  | enqueue outcome =>
    simp only [exec] at executed
    split at executed
    · rename_i possible
      cases executed
      exact ⟨outcome, possible, rfl, rfl⟩
    · cases executed
  | _ => cases executed

theorem exec_memory (executed : exec label w (.memory call) choice = some (some answer, after)) :
    ∃ store, w.backend = .memory store ∧ answer = (call.run store w.clock).1 ∧
      after = w.commit label call.target (.memory (call.run store w.clock).2) := by
  cases choice with
  | plain =>
    simp only [exec] at executed
    split at executed
    · rename_i store found
      cases executed
      exact ⟨store, found, rfl, rfl⟩
    · cases executed
  | _ => cases executed

theorem exec_sql (executed : exec label w (.sql statement) choice = some (some answer, after)) :
    ∃ db fault, w.backend = .sql db ∧ answer = (statement.run db w.clock fault).1 ∧
      after = w.commit label statement.target (.sql (statement.run db w.clock fault).2) := by
  cases choice with
  | plain =>
    simp only [exec] at executed
    split at executed
    · cases executed
    · rename_i db found
      cases executed
      exact ⟨db, none, found, rfl, rfl⟩
  | fault fault =>
    simp only [exec] at executed
    split at executed
    · cases executed
    · rename_i db found
      cases executed
      exact ⟨db, some fault, found, rfl, rfl⟩
  | _ => cases executed

/-- An operation of this machine is answered at once. -/
theorem exec_answered : exec label w operation choice ≠ some (none, after) := by
  intro executed
  cases operation <;> cases choice <;> simp only [exec] at executed <;> first
    | cases executed
    | (split at executed <;> cases executed)

/-- Every operation touches only its own aspect. -/
theorem exec_touched (executed : exec label w operation choice = some (some answer, after)) :
    Touched operation w after := by
  cases operation with
  | newID kind =>
    obtain ⟨_, _, rfl⟩ := exec_newID executed
    constructor <;> simp [Op.aspect]
  | emit event deferred =>
    obtain rfl := exec_emit executed
    constructor <;> simp [Op.aspect]
  | handle env =>
    obtain rfl := exec_handle executed
    constructor <;> simp [Op.aspect, start]
  | busDispatch kind env =>
    obtain ⟨outcome, _, _, rfl⟩ := exec_busDispatch executed
    rw [post_eq]
    constructor <;> simp [Op.aspect]
  | memory call =>
    obtain ⟨store, _, _, rfl⟩ := exec_memory executed
    constructor <;> simp [Op.aspect, commit]
  | sql statement =>
    obtain ⟨db, fault, _, _, rfl⟩ := exec_sql executed
    constructor <;> simp [Op.aspect, commit]
  | _ =>
    cases choice <;> cases executed
    constructor <;> simp [Op.aspect]

/-! ## Growth -/

section Growth

variable {operation : Op} {answer : operation.Answer}
  (executed : exec label w operation choice = some (some answer, after))

include executed

theorem exec_find_ids {id : String} (found : KeyedList.find id w.ids = some owner) :
    KeyedList.find id after.ids = some owner := by
  by_cases minted : operation.aspect = .ids
  · cases operation with
    | newID kind =>
      obtain ⟨fresh, _, rfl⟩ := exec_newID executed
      simp only [KeyedList.find]
      split
      · rename_i same
        subst same
        rw [fresh] at found
        cases found
      · exact found
    | _ => cases minted
  · rw [(exec_touched executed).ids minted]
    exact found

theorem exec_find_ids_inv {id : String} (found : KeyedList.find id after.ids = some owner) :
    KeyedList.find id w.ids = some owner ∨ (owner = label ∧ id ≠ "") := by
  by_cases minted : operation.aspect = .ids
  · cases operation with
    | newID kind =>
      obtain ⟨_, named, rfl⟩ := exec_newID executed
      simp only [KeyedList.find] at found
      split at found
      · rename_i same
        exact .inr ⟨(Option.some.inj found).symm, same ▸ named⟩
      · exact .inl found
    | _ => cases minted
  · rw [(exec_touched executed).ids minted] at found
    exact .inl found

theorem exec_mem_facts (listed : entry ∈ after.facts) : entry ∈ w.facts ∨ entry.1 = label := by
  by_cases reports : operation.aspect = .facts
  · cases operation with
    | emit event deferred =>
      obtain rfl := exec_emit executed
      rcases List.mem_cons.mp listed with rfl | listed
      · exact .inr rfl
      · exact .inl listed
    | _ => cases reports
  · rw [(exec_touched executed).facts reports] at listed
    exact .inl listed

theorem exec_mem_starts {start : Start} (listed : start ∈ after.starts) :
    start ∈ w.starts ∨ ∃ env, operation = .handle env ∧ start = w.starting label env := by
  by_cases runs : operation.aspect = .starts
  · cases operation with
    | handle env =>
      obtain rfl := exec_handle executed
      rcases List.mem_cons.mp listed with rfl | listed
      · exact .inr ⟨env, rfl, rfl⟩
      · exact .inl listed
    | _ => cases runs
  · rw [(exec_touched executed).starts runs] at listed
    exact .inl listed

/-- What an operation does to the messages. -/
theorem exec_enqueues : (after.broker = w.broker ∧ after.produced = w.produced) ∨
    ∃ kind env, operation = .busDispatch kind env ∧
      after.broker = { kind := kind, env := env } :: w.broker ∧
      after.produced = { kind := kind, env := env } :: w.produced := by
  by_cases sends : operation.aspect = .transport
  · cases operation with
    | busDispatch kind env =>
      obtain ⟨outcome, _, _, rfl⟩ := exec_busDispatch executed
      rw [post_eq]
      unfold enqueue produce
      split
      · exact .inr ⟨kind, env, rfl, rfl, rfl⟩
      · exact .inl ⟨rfl, rfl⟩
    | _ => cases sends
  · have touched := exec_touched executed
    exact .inl ⟨touched.broker sends, touched.produced sends⟩

theorem exec_mem_produced (listed : message ∈ after.produced) :
    message ∈ w.produced ∨ ∃ kind env, operation = .busDispatch kind env ∧
        message = { kind := kind, env := env } := by
  rcases exec_enqueues executed with ⟨_, same⟩ | ⟨kind, env, sent, _, more⟩
  · exact .inl (same ▸ listed)
  · rw [more] at listed
    exact (List.mem_cons.mp listed).symm.imp_right fun own =>
      ⟨kind, env, sent, own⟩

theorem exec_produced_subset (listed : message ∈ w.produced) : message ∈ after.produced := by
  rcases exec_enqueues executed with ⟨_, same⟩ | ⟨_, _, _, _, more⟩
  · exact same ▸ listed
  · exact more ▸ List.mem_cons_of_mem _ listed

/-- A message in the broker was there before or has just been produced. -/
theorem exec_mem_broker (listed : message ∈ after.broker) :
    message ∈ w.broker ∨ message ∈ after.produced := by
  rcases exec_enqueues executed with ⟨same, _⟩ | ⟨_, _, _, queued, more⟩
  · exact .inl (same ▸ listed)
  · rw [queued] at listed
    rw [more]
    exact (List.mem_cons.mp listed).elim (fun own => .inr (own ▸ List.mem_cons_self)) .inl

/-- What an operation does to the rejected chains. -/
theorem exec_rejects :
    after.rejected = w.rejected ∨
    ∃ env, operation = .busDispatch .chainNode env ∧
      after.rejected = env.chainID :: w.rejected := by
  by_cases sends : operation.aspect = .transport
  · cases operation with
    | busDispatch kind env =>
      obtain ⟨outcome, _, _, rfl⟩ := exec_busDispatch executed
      unfold post noteRejection
      rw [enqueue_eq]
      split
      · rename_i refused
        have same : kind = .chainNode := refused.1
        exact .inr ⟨env, by rw [same], rfl⟩
      · exact .inl rfl
    | _ => cases sends
  · exact .inl ((exec_touched executed).rejected sends)

theorem exec_mem_rejected {id : String} (listed : id ∈ after.rejected) :
    id ∈ w.rejected ∨ ∃ env, operation = .busDispatch .chainNode env ∧ id = env.chainID := by
  rcases exec_rejects executed with same | ⟨env, sent, more⟩
  · exact .inl (same ▸ listed)
  · rw [more] at listed
    exact (List.mem_cons.mp listed).symm.imp_right fun own => ⟨env, sent, own⟩

theorem exec_rejected_subset {id : String} (listed : id ∈ w.rejected) : id ∈ after.rejected := by
  rcases exec_rejects executed with same | ⟨_, _, more⟩
  · exact same ▸ listed
  · exact more ▸ List.mem_cons_of_mem _ listed

end Growth

end World

end JobQueue.Workflow
