import Mathlib.Algebra.Ring.Nat
import Mathlib.Data.Int.ConditionallyCompleteOrder

/-!
# Binary heaps over an interface

The sifts of a binary heap that sees its elements only through a comparison and an
exchange of two slots. Whatever exchanges preserve, the sifts preserve; and they
repair the order around a hole, the one slot whose element may be out of place.
-/

namespace JobQueue

/-- What a heap asks of the sequence it orders. -/
structure HeapInterface (S : Type) where
  len : S -> Nat
  less : S -> Nat -> Nat -> Bool
  swap : S -> Nat -> Nat -> S

namespace HeapInterface

variable {S : Type} (heap : HeapInterface S)

/-- Move the element of a slot towards the root. -/
def up (s : S) (j : Nat) : S :=
  if (j - 1) / 2 = j ∨ heap.less s j ((j - 1) / 2) = false then s
  else up (heap.swap s ((j - 1) / 2) j) ((j - 1) / 2)
termination_by j
decreasing_by omega

/-- Slot of the smaller child among the first `n` slots. -/
def child (s : S) (i n : Nat) : Nat :=
  if 2 * i + 2 < n ∧ heap.less s (2 * i + 2) (2 * i + 1) = true then 2 * i + 2
  else 2 * i + 1

theorem child_cases (s : S) (i n : Nat) :
    heap.child s i n = 2 * i + 1 ∨ heap.child s i n = 2 * i + 2 ∧ 2 * i + 2 < n := by
  unfold child
  split <;> simp_all

/-- Move the element of a slot away from the root, and tell where it ends. -/
def down (s : S) (i n : Nat) : S × Nat :=
  if n ≤ 2 * i + 1 then (s, i)
  else if heap.less s (heap.child s i n) i = false then (s, i)
  else down (heap.swap s i (heap.child s i n)) (heap.child s i n) n
termination_by n - i
decreasing_by
  have := heap.child_cases s i n
  omega

theorem le_down (s : S) (i n : Nat) : i ≤ (heap.down s i n).2 := by
  fun_induction down heap s i n with
  | case1 => exact Nat.le_refl _
  | case2 => exact Nat.le_refl _
  | case3 s i inside moves ih =>
    have := heap.child_cases s i n
    omega

/-- Fill a hole whose element may belong up or down. -/
def fix (s : S) (i n : Nat) : S :=
  let sunk := heap.down s i n
  if i < sunk.2 then sunk.1 else heap.up sunk.1 i

section Stable

variable {heap} {P : S -> Prop} {n : Nat}
  (stable : ∀ s i j, i < n -> j < n -> P s -> P (heap.swap s i j))
include stable

/-- What an exchange of two slots below a bound preserves, `up` preserves. -/
theorem up_stable {s : S} {j : Nat} (inside : j < n) (holds : P s) : P (heap.up s j) := by
  fun_induction up heap s j with
  | case1 => exact holds
  | case2 s j moves ih => exact ih (by omega) (stable s _ j (by omega) inside holds)

theorem down_stable {s : S} {i : Nat} (holds : P s) : P (heap.down s i n).1 := by
  fun_induction down heap s i n with
  | case1 => exact holds
  | case2 => exact holds
  | case3 s i inside moves ih =>
    have := heap.child_cases s i n
    exact ih (stable s i _ (by omega) (by omega) holds)

theorem fix_stable (inside : i < n) (holds : P s) : P (heap.fix s i n) := by
  simp only [fix]
  split
  · exact down_stable stable holds
  · exact up_stable stable inside (down_stable stable holds)

end Stable

section Ordered

variable {K : Type} [LinearOrder K]

variable (key : Nat -> K)

/-- The first `n` keys are ordered as a heap. -/
def Ordered (n : Nat) : Prop :=
  ∀ c, 0 < c -> c < n -> key ((c - 1) / 2) ≤ key c

theorem Ordered.congr {key other : Nat -> K} (ordered : Ordered key n)
    (same : ∀ i, i < n -> other i = key i) : Ordered other n := by
  intro c positive inside
  rw [same _ (by omega), same c inside]
  exact ordered c positive inside

/-- The root of a heap is its least element. -/
theorem Ordered.root_le
    {key : Nat -> K} (ordered : Ordered key n) (inside : c < n) : key 0 ≤ key c := by
  induction c using Nat.strongRecOn with
  | _ c ih =>
    by_cases root : c = 0
    · rw [root]
    · have parent := ih ((c - 1) / 2) (by omega) (by omega)
      exact le_trans parent (ordered c (by omega) inside)

/-- The keys are ordered but for the element in one slot. -/
structure Hole (n i : Nat) : Prop where
  others : ∀ c, 0 < c -> c < n -> c ≠ i -> (c - 1) / 2 ≠ i -> key ((c - 1) / 2) ≤ key c
  across : ∀ c, 0 < c -> c < n -> (c - 1) / 2 = i -> 0 < i -> key ((i - 1) / 2) ≤ key c

/-- The element of a slot is not after its children. -/
def Below (n i : Nat) : Prop :=
  ∀ c, 0 < c -> c < n -> (c - 1) / 2 = i -> key i ≤ key c

/-- The element of a slot is not before its parent. -/
def Above (i : Nat) : Prop :=
  0 < i -> key ((i - 1) / 2) ≤ key i

theorem Hole.ordered {key : Nat -> K} (hole : Hole key n i) (below : Below key n i)
    (above : Above key i) : Ordered key n := by
  intro c positive inside
  by_cases self : c = i
  · exact self ▸ above (self ▸ positive)
  · by_cases parent : (c - 1) / 2 = i
    · exact parent ▸ below c positive inside parent
    · exact hole.others c positive inside self parent

/-- The keys read through an interface. -/
structure Keys (heap : HeapInterface S) (key : S -> Nat -> K) : Prop where
  less : ∀ s i j, heap.less s i j = true ↔ key s i < key s j
  swap : ∀ s i j, i < heap.len s -> j < heap.len s -> ∀ k, key (heap.swap s i j) k =
      if k = i then key s j else if k = j then key s i else key s k
  len : ∀ s i j, heap.len (heap.swap s i j) = heap.len s

variable {heap} {key : S -> Nat -> K} (keys : Keys heap key)

include keys

/-- Exchanging a hole with its larger parent moves the hole up. -/
theorem Hole.swap_up (bound : n ≤ heap.len s) (inside : j < n)
    (positive : 0 < j) (smaller : key s j < key s ((j - 1) / 2))
    (hole : Hole (key s) n j) (below : Below (key s) n j) :
    Hole (key (heap.swap s ((j - 1) / 2) j)) n ((j - 1) / 2) ∧
      Below (key (heap.swap s ((j - 1) / 2) j)) n ((j - 1) / 2) := by
  have moved := keys.swap s ((j - 1) / 2) j (by omega) (by omega)
  have parents := hole.others ((j - 1) / 2)
  refine ⟨⟨fun c first last self parent => ?_, fun c first last parent above => ?_⟩,
    fun c first last parent => ?_⟩
  all_goals
    rw [moved, moved]
    have := hole.others c first last
    have := hole.across c first last
    have := below c first last
    grind

/-- Exchanging a hole with its smallest child moves the hole down. -/
theorem Hole.swap_down (bound : n ≤ heap.len s) (inside : j < n)
    (positive : 0 < j) (parent : (j - 1) / 2 = i) (smaller : key s j < key s i)
    (least : ∀ c, 0 < c -> c < n -> (c - 1) / 2 = i -> key s j ≤ key s c)
    (hole : Hole (key s) n i) :
    Hole (key (heap.swap s i j)) n j ∧ Above (key (heap.swap s i j)) j := by
  have moved := keys.swap s i j (by omega) (by omega)
  refine ⟨⟨fun c first last self other => ?_, fun c first last other above => ?_⟩, fun above => ?_⟩
  · rw [moved, moved]
    have := hole.others c first last
    have := hole.across c first last
    have := hole.across j positive inside parent
    have := least c first last
    grind
  · rw [moved, moved]
    have := hole.others c first last
    grind
  · rw [moved, moved]
    grind

/-- `up` fills a hole whose element is not after its children. -/
theorem up_ordered (bound : n ≤ heap.len s) (inside : j < n)
    (hole : Hole (key s) n j) (below : Below (key s) n j) :
    Ordered (key (heap.up s j)) n := by
  fun_induction up heap s j with
  | case1 s j stops =>
    refine hole.ordered below fun positive => not_lt.mp fun smaller => ?_
    rcases stops with root | fixed
    · omega
    · simp [(keys.less s _ _).mpr smaller] at fixed
  | case2 s j moves ih =>
    rw [not_or, Bool.not_eq_false] at moves
    obtain ⟨moved, small⟩ := hole.swap_up keys bound inside (by omega)
      ((keys.less s _ _).mp moves.2) below
    exact ih (by rw [keys.len]; exact bound) (by omega) moved small

theorem child_least (s : S) (positive : 0 < c) (last : c < n) (parent : (c - 1) / 2 = i) :
    key s (heap.child s i n) ≤ key s c := by
  have either : c = 2 * i + 1 ∨ c = 2 * i + 2 := by omega
  have less := keys.less s (2 * i + 2) (2 * i + 1)
  unfold child
  grind

/-- Where `down` does not move, the element is not after its children. -/
theorem below_of_stops (stops : n ≤ 2 * i + 1 ∨ heap.less s (heap.child s i n) i = false) :
    Below (key s) n i := by
  intro c positive last parent
  rcases stops with leaf | fixed
  · omega
  · have least := child_least keys s positive last parent
    refine le_trans (not_lt.mp fun smaller => ?_) least
    simp [(keys.less s _ _).mpr smaller] at fixed

/-- The first move of `down`. -/
theorem hole_down (bound : n ≤ heap.len s) (inside : ¬n ≤ 2 * i + 1)
    (moves : ¬heap.less s (heap.child s i n) i = false) (hole : Hole (key s) n i) :
    Hole (key (heap.swap s i (heap.child s i n))) n (heap.child s i n) ∧
      Above (key (heap.swap s i (heap.child s i n))) (heap.child s i n) := by
  have place := heap.child_cases s i n
  exact hole.swap_down keys bound (by omega) (by omega) (by omega)
    ((keys.less s _ _).mp (Bool.not_eq_false _ ▸ moves))
    fun c positive last parent => child_least keys s positive last parent

/-- `down` fills a hole whose element is not before its parent. -/
theorem down_ordered (bound : n ≤ heap.len s) (hole : Hole (key s) n i) (above : Above (key s) i) :
    Ordered (key (heap.down s i n).1) n := by
  fun_induction down heap s i n with
  | case1 s i leaf => exact hole.ordered (below_of_stops keys (.inl leaf)) above
  | case2 s i inside fixed => exact hole.ordered (below_of_stops keys (.inr fixed)) above
  | case3 s i inside moves ih =>
    obtain ⟨moved, high⟩ := hole_down keys bound inside moves hole
    exact ih (by rw [keys.len]; exact bound) moved high

theorem fix_ordered (bound : n ≤ heap.len s) (inside : i < n) (hole : Hole (key s) n i) :
    Ordered (key (heap.fix s i n)) n := by
  simp only [fix]
  by_cases stops : n ≤ 2 * i + 1 ∨ heap.less s (heap.child s i n) i = false
  · have stays : heap.down s i n = (s, i) := by
      unfold down
      rcases stops with leaf | fixed
      · rw [if_pos leaf]
      · rw [if_pos fixed, ite_self]
    rw [stays, if_neg (Nat.lt_irrefl i)]
    exact up_ordered keys bound inside hole (below_of_stops keys stops)
  · obtain ⟨room, moves⟩ := not_or.mp stops
    obtain ⟨moved, high⟩ := hole_down keys bound room moves hole
    have place := heap.child_cases s i n
    have further := heap.le_down (heap.swap s i (heap.child s i n)) (heap.child s i n) n
    rw [down, if_neg room, if_neg moves]
    rw [if_pos (by omega)]
    exact down_ordered keys (by rw [keys.len]; exact bound) moved high

end Ordered

end HeapInterface
end JobQueue
