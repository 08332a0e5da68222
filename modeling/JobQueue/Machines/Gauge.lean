import Mathlib.Data.Finset.Card

/-!
# Gauges over event sequences

A gauge goes up at every opening event and down, never below zero, at every
closing one; a latch is set and reset by them. Both are back at rest at the end
of a sequence in which the openings are answered by later closings.
-/

namespace JobQueue.Gauge

variable {α : Type} {opens closes : α -> Bool} {events : List α}

/-- A gauge after one event. -/
def step (opens closes : α -> Bool) (value : Nat) (event : α) : Nat :=
  if opens event then value + 1 else if closes event then value - 1 else value

/-- A latch after one event. -/
def latch (opens closes : α -> Bool) (set : Bool) (event : α) : Bool :=
  if opens event then true else if closes event then false else set

/-- The closing event chosen for an opening one comes after it. -/
def Answers (opens closes : α -> Bool) (events : List α) (answer : Nat -> Nat) : Prop :=
  ∀ index event, events[index]? = some event -> opens event = true -> index < answer index ∧
      ∃ closing, events[answer index]? = some closing ∧ closes closing = true

/-- Distinct opening events have distinct answers. -/
def Apart (opens : α -> Bool) (events : List α) (answer : Nat -> Nat) : Prop :=
  ∀ first second, (events[first]?).any opens = true -> (events[second]?).any opens = true ->
    answer first = answer second -> first = second

/-- The openings before a position whose answers are not before it. -/
def outstanding (opens : α -> Bool) (events : List α) (answer : Nat -> Nat)
    (position : Nat) : Finset Nat :=
  (Finset.range position).filter fun index =>
    (events[index]?).any opens = true ∧ position ≤ answer index

theorem mem_outstanding :
    index ∈ outstanding opens events answer position ↔
      index < position ∧ (events[index]?).any opens = true ∧ position ≤ answer index := by
  simp [outstanding]

/-- An opening stays outstanding over an event that is not its answer. -/
theorem outstanding_succ (member : index ∈ outstanding opens events answer position)
    (other : answer index ≠ position) :
    index ∈ outstanding opens events answer (position + 1) := by
  obtain ⟨before, opening, pending⟩ := mem_outstanding.mp member
  exact mem_outstanding.mpr ⟨by omega, opening, by omega⟩

/-- At most the answered opening stops being outstanding at an event. -/
theorem card_outstanding_le (apart : Apart opens events answer) (position : Nat) :
    (outstanding opens events answer position).card ≤
      (outstanding opens events answer (position + 1)).card + 1 := by
  by_cases closed : ∃ index ∈ outstanding opens events answer position, answer index = position
  · obtain ⟨index, member, same⟩ := closed
    rw [← Finset.card_erase_add_one member]
    refine Nat.succ_le_succ (Finset.card_le_card fun other left => ?_)
    obtain ⟨different, stays⟩ := Finset.mem_erase.mp left
    refine outstanding_succ stays fun equal => different ?_
    exact apart other index (mem_outstanding.mp stays).2.1
      (mem_outstanding.mp member).2.1 (equal.trans same.symm)
  · refine (Finset.card_le_card fun index member => ?_).trans (Nat.le_succ _)
    exact outstanding_succ member fun same => closed ⟨index, member, same⟩

variable (answers : Answers opens closes events answer)
include answers

/-- An answer is a closing event. -/
theorem Answers.closes_at (opening : (events[index]?).any opens = true)
    (found : events[answer index]? = some event) : closes event = true := by
  cases start : events[index]? with
  | none => simp [start] at opening
  | some first =>
    rw [start, Option.any_some] at opening
    obtain ⟨_, closing, same, ends⟩ := answers index first start opening
    rw [found] at same
    cases same
    exact ends

/-- An opening event is outstanding right after it. -/
theorem Answers.self_mem (found : events[position]? = some event) (opening : opens event = true) :
    position ∈ outstanding opens events answer (position + 1) := by
  refine mem_outstanding.mpr ⟨by omega, by rw [found]; exact opening, ?_⟩
  exact (answers position event found opening).1

/-- Nothing is outstanding at the end. -/
theorem Answers.outstanding_length : outstanding opens events answer events.length = ∅ := by
  refine Finset.eq_empty_of_forall_notMem fun index member => ?_
  obtain ⟨before, opening, late⟩ := mem_outstanding.mp member
  rw [List.getElem?_eq_getElem before] at opening
  obtain ⟨_, closing, found, _⟩ := answers index _ (List.getElem?_eq_getElem before) opening
  have inside := (List.getElem?_eq_some_iff.mp found).1
  omega

section Counting

variable (apart : Apart opens events answer)
  (exclusive : ∀ event, opens event = true -> closes event = false)
include apart exclusive

/-- The gauge never exceeds the number of outstanding openings. -/
theorem foldl_step_le (inside : position ≤ events.length) :
    (events.take position).foldl (step opens closes) 0 ≤
      (outstanding opens events answer position).card := by
  induction position with
  | zero => simp
  | succ position ih =>
    have before := ih (by omega)
    have found := List.getElem?_eq_getElem (show position < events.length by omega)
    rw [← List.take_concat_get' _ _ (by omega), List.foldl_concat]
    generalize events[position] = event at found ⊢
    have stays : closes event = false -> outstanding opens events answer position ⊆
          outstanding opens events answer (position + 1) := by
      intro quiet index member
      refine outstanding_succ member fun same => ?_
      have ends := answers.closes_at (mem_outstanding.mp member).2.1 (same ▸ found)
      rw [quiet] at ends
      cases ends
    generalize (events.take position).foldl _ 0 = value at before ⊢
    unfold step
    split
    · rename_i opening
      have fresh : position ∉ outstanding opens events answer position :=
        fun member => Nat.lt_irrefl _ (mem_outstanding.mp member).1
      have grown := Finset.card_le_card (Finset.insert_subset
        (answers.self_mem found opening) (stays (exclusive event opening)))
      rw [Finset.card_insert_of_notMem fresh] at grown
      omega
    · split
      · have lost := card_outstanding_le apart position
        omega
      · rename_i quiet
        exact before.trans (Finset.card_le_card (stays (by simpa using quiet)))

/-- A gauge whose openings are answered one to one is back at zero. -/
theorem foldl_step_eq_zero : events.foldl (step opens closes) 0 = 0 := by
  have bound := foldl_step_le answers apart exclusive le_rfl
  rw [answers.outstanding_length, List.take_length] at bound
  exact Nat.le_zero.mp bound

end Counting

/-- A set latch has an outstanding opening. -/
theorem outstanding_of_foldl_latch (inside : position ≤ events.length)
    (set : (events.take position).foldl (latch opens closes) false = true) :
    ∃ index, index ∈ outstanding opens events answer position := by
  induction position with
  | zero => simp at set
  | succ position ih =>
    have found := List.getElem?_eq_getElem (show position < events.length by omega)
    rw [← List.take_concat_get' _ _ (by omega), List.foldl_concat] at set
    generalize events[position] = event at found set
    rw [latch] at set
    split at set
    · rename_i opening
      exact ⟨position, answers.self_mem found opening⟩
    · split at set
      · cases set
      · rename_i quiet
        obtain ⟨index, member⟩ := ih (by omega) set
        refine ⟨index, outstanding_succ member fun same => quiet ?_⟩
        exact answers.closes_at (mem_outstanding.mp member).2.1 (same ▸ found)

/-- A latch whose openings are answered is reset. -/
theorem foldl_latch_eq_false : events.foldl (latch opens closes) false = false := by
  cases set : events.foldl (latch opens closes) false with
  | false => rfl
  | true =>
    rw [← List.take_length (l := events)] at set
    obtain ⟨index, member⟩ := outstanding_of_foldl_latch answers le_rfl set
    rw [answers.outstanding_length] at member
    exact absurd member (Finset.notMem_empty index)

end JobQueue.Gauge
