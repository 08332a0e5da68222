import JobQueue.Collections.Heap
import Mathlib.Algebra.Order.Ring.Int
import Mathlib.Data.List.Nodup

/-!
# The expiry queue of the in-memory uniqueness store

A slice of pointers to expiration objects, kept as a heap by their expiry. Every
object records its slot, so that a claim can be taken out of the middle.
-/

namespace JobQueue.Uniqueness

/-- One expiration object. -/
structure MemoryExpiry where
  key : String
  token : Nat
  expiresAt : Int
  index : Int

/-- What an expiration object says apart from its place. -/
def MemoryExpiry.content (expiry : MemoryExpiry) : String × Nat × Int :=
  (expiry.key, expiry.token, expiry.expiresAt)

/-- The slice of pointers and the objects they lead to. -/
structure MemoryExpiryQueue where
  slots : List Nat := []
  objects : Nat -> MemoryExpiry := fun _ => ⟨"", 0, 0, 0⟩

namespace MemoryExpiryQueue

variable (queue : MemoryExpiryQueue)

/-- The object in a slot. -/
def pointer (i : Nat) : Nat := queue.slots.getD i 0

/-- The expiry of a slot. -/
def expiresAt (i : Nat) : Int :=
  (queue.objects (queue.pointer i)).expiresAt

/-- Tell an object its slot. -/
def setIndex (address : Nat) (index : Int) : MemoryExpiryQueue :=
  let moved := { queue.objects address with index := index }
  { queue with objects := Function.update queue.objects address moved }

/-- `Len`. -/
def len : Nat := queue.slots.length

/-- `Less`. -/
def less (i j : Nat) : Bool :=
  queue.expiresAt i < queue.expiresAt j

/-- `Swap`. -/
def swap (i j : Nat) : MemoryExpiryQueue :=
  (({ queue with slots := (queue.slots.set i (queue.pointer j)).set j (queue.pointer i) }
    ).setIndex (queue.pointer j) i).setIndex (queue.pointer i) j

/-- `Push`. -/
def push (address : Nat) : MemoryExpiryQueue :=
  { queue.setIndex address queue.len with slots := queue.slots ++ [address] }

/-- `Pop`. -/
def pop : MemoryExpiryQueue × Nat :=
  let last := queue.pointer (queue.len - 1)
  ({ queue.setIndex last (-1) with slots := queue.slots.dropLast }, last)

/-- The queue as `container/heap` sees it. -/
def heap : HeapInterface MemoryExpiryQueue := ⟨len, less, swap⟩

/-- `heap.Push`. -/
def heapPush (address : Nat) : MemoryExpiryQueue :=
  heap.up (queue.push address) queue.len

/-- `heap.Pop`. -/
def heapPop : MemoryExpiryQueue × Nat :=
  let n := queue.len - 1
  (heap.down (queue.swap 0 n) 0 n).1.pop

/-- `heap.Remove`. -/
def heapRemove (i : Nat) : MemoryExpiryQueue × Nat :=
  let n := queue.len - 1
  if n = i then queue.pop else (heap.fix (queue.swap i n) i n).pop

/-- Distinct pointers, each to an object that knows its slot. -/
structure Indexed : Prop where
  distinct : queue.slots.Nodup
  index : ∀ i address : Nat, queue.slots[i]? = some address -> (queue.objects address).index = i

/-- The first `n` slots are ordered by expiry. -/
abbrev Ordered (n : Nat) : Prop :=
  HeapInterface.Ordered queue.expiresAt n

/-- The same objects in other slots. -/
structure Shuffled (queue next : MemoryExpiryQueue) : Prop where
  indexed : next.Indexed
  slots : next.slots.Perm queue.slots
  content : ∀ address, (next.objects address).content = (queue.objects address).content

variable {queue next : MemoryExpiryQueue}

@[simp] theorem content_setIndex :
    ((queue.setIndex address index).objects other).content = (queue.objects other).content := by
  by_cases same : other = address
  · subst same
    simp [setIndex, MemoryExpiry.content]
  · simp [setIndex, same]

@[simp] theorem content_swap :
    ((queue.swap i j).objects address).content = (queue.objects address).content := by
  rw [swap, content_setIndex, content_setIndex]

theorem expiresAt_of_content
    (content : ∀ address, (next.objects address).content = (queue.objects address).content) :
    next.expiresAt i = (queue.objects (next.pointer i)).expiresAt :=
  congrArg (·.2.2) (content (next.pointer i))

theorem getElem?_of_lt (inside : i < queue.len) : queue.slots[i]? = some (queue.pointer i) := by
  rw [pointer, List.getD_eq_getElem?_getD, List.getElem?_eq_getElem inside]
  rfl

theorem slots_swap (first : i < queue.len) (second : j < queue.len) :
    (queue.swap i j).slots[k]? = if k = i then some (queue.pointer j)
      else if k = j then some (queue.pointer i) else queue.slots[k]? := by
  have one := getElem?_of_lt first
  unfold len at first second
  simp only [swap, setIndex, List.getElem?_set, List.length_set]
  grind

theorem keys : HeapInterface.Keys heap expiresAt where
  less _ _ _ := decide_eq_true_iff
  swap queue i j first second k := by
    rw [show heap.swap queue i j = queue.swap i j from rfl,
      expiresAt_of_content (fun address => content_swap), pointer,
      List.getD_eq_getElem?_getD, slots_swap first second]
    split_ifs <;> rfl
  len queue i j := by simp [heap, len, swap, setIndex]

theorem Indexed.inj (indexed : queue.Indexed) (first : i < queue.len) (second : j < queue.len)
    (same : queue.pointer i = queue.pointer j) :
    i = j := by
  refine (List.getElem?_inj first indexed.distinct).mp ?_
  rw [getElem?_of_lt first, getElem?_of_lt second, same]

theorem perm_swap (first : i < queue.len) (second : j < queue.len) :
    (queue.swap i j).slots.Perm queue.slots := by
  have exchanged := @List.set_set_perm _ queue.slots i j first second
  simpa [swap, setIndex, pointer, List.getElem?_eq_getElem first,
    List.getElem?_eq_getElem second] using exchanged

/-- An exchange tells both objects their new slots. -/
theorem Indexed.swap (indexed : queue.Indexed) (first : i < queue.len) (second : j < queue.len) :
    (queue.swap i j).Indexed where
  distinct := (perm_swap first second).nodup_iff.mpr indexed.distinct
  index k address found := by
    rw [slots_swap first second] at found
    simp only [MemoryExpiryQueue.swap, setIndex, Function.update_apply]
    have apart := indexed.inj first second
    have place := indexed.index k address
    have inside : ∀ l, l < queue.len -> queue.slots[k]? = some (queue.pointer l) ->
        k = l := fun l within same =>
      (List.getElem?_inj within indexed.distinct).mp
        ((getElem?_of_lt within).trans same.symm) |>.symm
    have one := inside i first
    have two := inside j second
    grind

theorem Shuffled.refl (indexed : queue.Indexed) : Shuffled queue queue :=
  ⟨indexed, .refl _, fun _ => rfl⟩

theorem Shuffled.swap (shuffled : Shuffled queue next) (first : i < queue.len)
    (second : j < queue.len) : Shuffled queue (next.swap i j) := by
  have length : next.len = queue.len := shuffled.slots.length_eq
  rw [← length] at first second
  refine ⟨shuffled.indexed.swap first second,
    (perm_swap first second).trans shuffled.slots, fun address => ?_⟩
  rw [content_swap, shuffled.content]

theorem Shuffled.len_eq (shuffled : Shuffled queue next) :
    next.len = queue.len := shuffled.slots.length_eq

/-- One object taken out of a queue. -/
structure Removed (queue next : MemoryExpiryQueue) (address : Nat) : Prop where
  indexed : next.Indexed
  ordered : next.Ordered next.len
  slots : queue.slots.Perm (address :: next.slots)
  content : ∀ other, (next.objects other).content = (queue.objects other).content

/-- The last object of a queue that is ordered up to it can be popped. -/
theorem Shuffled.popped (shuffled : Shuffled queue next) (size : queue.len = n + 1)
    (last : next.slots[n]? = some address) (ordered : next.Ordered n) :
    next.pop.2 = address ∧ Removed queue next.pop.1 address := by
  have size' : next.len = n + 1 := shuffled.len_eq.trans size
  have pointed : next.pointer n = address :=
    Option.some.inj ((getElem?_of_lt (by omega)).symm.trans last)
  have kept (i : Nat) (inside : i < n) : next.pop.1.slots[i]? = next.slots[i]? := by
    unfold len at size'
    rw [pop, List.getElem?_dropLast, if_pos (by omega)]
  have content (other : Nat) : (next.pop.1.objects other).content =
      (next.objects other).content := content_setIndex
  have short : next.pop.1.len = n := by
    unfold len at size'
    simp [len, pop, size']
  refine ⟨by simp only [pop, size', Nat.add_sub_cancel, pointed], ⟨?_, ?_⟩, ?_,
    ?_, fun other => (content other).trans (shuffled.content other)⟩
  · exact shuffled.indexed.distinct.sublist (List.dropLast_sublist _)
  · intro i other found
    have inside : i < n := short ▸ (List.getElem?_eq_some_iff.mp found).1
    rw [kept i inside] at found
    have apart : other ≠ address := fun same => by
      rw [same, ← last] at found
      have := (List.getElem?_inj (show i < next.slots.length from by
        unfold len at size'; omega) shuffled.indexed.distinct).mp found
      omega
    simp only [pop, setIndex, size', Nat.add_sub_cancel, pointed]
    rw [Function.update_of_ne apart]
    exact shuffled.indexed.index i other found
  · rw [short]
    refine HeapInterface.Ordered.congr ordered fun i inside => ?_
    rw [expiresAt_of_content content, expiresAt, pointer, pointer,
      List.getD_eq_getElem?_getD, kept i inside, List.getD_eq_getElem?_getD]
  · have filled : next.slots ≠ [] := by
      intro empty
      simp [len, empty] at size'
    have split : next.pop.1.slots ++ [address] = next.slots := by
      have ending : next.slots.getLast filled = address := by
        unfold len at size'
        rw [List.getElem?_eq_some_iff] at last
        obtain ⟨_, rfl⟩ := last
        simp [List.getLast_eq_getElem, size']
      have closing := List.dropLast_concat_getLast filled
      rwa [ending] at closing
    refine shuffled.slots.symm.trans ?_
    rw [← split]
    exact List.perm_append_singleton address _

theorem hole_swap (ordered : queue.Ordered queue.len) (inside : i < n) (size : queue.len = n + 1) :
    HeapInterface.Hole (queue.swap i n).expiresAt n i := by
  have moved := keys.swap queue i n (show i < queue.len by omega) (show n < queue.len by omega)
  rw [size] at ordered
  refine ⟨fun c first last self parent => ?_, fun c first last parent above => ?_⟩
  · rw [show queue.swap i n = heap.swap queue i n from rfl, moved, moved]
    have := ordered c first (by omega)
    grind
  · rw [show queue.swap i n = heap.swap queue i n from rfl, moved, moved]
    have := ordered c first (by omega)
    have := ordered i above (by omega)
    grind

/-- What sifting the first `n` slots after an exchange leaves in place. -/
theorem sift_stable (indexed : queue.Indexed) (inside : i ≤ n) (size : queue.len = n + 1) :
    (∀ s j k, j < n -> k < n -> Shuffled queue s ∧ s.slots[n]? = some (queue.pointer i) ->
      Shuffled queue (heap.swap s j k) ∧ (heap.swap s j k).slots[n]? = some (queue.pointer i)) ∧
    Shuffled queue (queue.swap i n) ∧ (queue.swap i n).slots[n]? = some (queue.pointer i) := by
  refine ⟨fun s j k first second ⟨shuffled, last⟩ => ?_, ?_, ?_⟩
  · refine ⟨shuffled.swap (by omega) (by omega), ?_⟩
    have length := shuffled.len_eq
    rw [show heap.swap s j k = s.swap j k from rfl,
      slots_swap (by omega) (by omega), if_neg (by omega), if_neg (by omega)]
    exact last
  · exact (Shuffled.refl indexed).swap (by omega) (by omega)
  · rw [slots_swap (by omega) (by omega)]
    split
    · rename_i same
      rw [same]
    · rw [if_pos rfl]

theorem heapPop_spec (indexed : queue.Indexed) (ordered : queue.Ordered queue.len)
    (filled : 0 < queue.len) :
    queue.heapPop.2 = queue.pointer 0 ∧ Removed queue queue.heapPop.1 (queue.pointer 0) := by
  obtain ⟨n, size⟩ : ∃ n, queue.len = n + 1 := ⟨queue.len - 1, by omega⟩
  obtain ⟨stable, start⟩ := sift_stable indexed (Nat.zero_le n) size
  obtain ⟨shuffled, last⟩ := @HeapInterface.down_stable _ heap _ n stable (queue.swap 0 n) 0 start
  have sorted : Ordered (heap.down (queue.swap 0 n) 0 n).1 n := by
    refine HeapInterface.down_ordered keys ?_ ?_ (fun positive => absurd positive (Nat.lt_irrefl 0))
    · show n ≤ (queue.swap 0 n).len
      rw [start.1.len_eq]
      omega
    · by_cases single : n = 0
      · subst single
        exact ⟨fun c _ last => absurd last (Nat.not_lt_zero c),
          fun c _ last => absurd last (Nat.not_lt_zero c)⟩
      · exact hole_swap ordered (by omega) size
  have popped := shuffled.popped size last sorted
  simpa only [heapPop, size, Nat.add_sub_cancel] using popped

theorem heapRemove_spec (indexed : queue.Indexed) (ordered : queue.Ordered queue.len)
    (inside : i < queue.len) :
    Removed queue (queue.heapRemove i).1 (queue.pointer i) := by
  obtain ⟨n, size⟩ : ∃ n, queue.len = n + 1 := ⟨queue.len - 1, by omega⟩
  simp only [heapRemove, size, Nat.add_sub_cancel]
  split
  · rename_i same
    subst same
    have last := getElem?_of_lt (show n < queue.len by omega)
    exact ((Shuffled.refl indexed).popped size last
      fun c first bound => ordered c first (by omega)).2
  · have within : i < n := by omega
    obtain ⟨stable, start⟩ := sift_stable indexed within.le size
    have bound : n ≤ heap.len (queue.swap i n) := by
      show n ≤ (queue.swap i n).len
      rw [start.1.len_eq]
      omega
    have sorted := HeapInterface.fix_ordered keys bound within (hole_swap ordered within size)
    obtain ⟨shuffled, last⟩ := HeapInterface.fix_stable stable within start
    exact (shuffled.popped size last sorted).2

theorem heapPush_spec (indexed : queue.Indexed) (ordered : queue.Ordered queue.len)
    (fresh : address ∉ queue.slots) :
    let next := queue.heapPush address
    next.Indexed ∧ next.Ordered next.len ∧ next.slots.Perm (address :: queue.slots) ∧
      ∀ other, (next.objects other).content = (queue.objects other).content := by
  have start : Shuffled (queue.push address) (queue.push address) := by
    refine .refl ⟨?_, fun i other found => ?_⟩
    · exact List.nodup_append.mpr ⟨indexed.distinct, List.nodup_singleton _,
        fun old inside new last same => fresh (by
          rw [List.mem_singleton.mp last] at same
          exact same ▸ inside)⟩
    · rw [push, List.getElem?_append] at found
      simp only [push, setIndex, Function.update_apply]
      split at found
      · have apart : other ≠ address := fun same =>
          fresh (same ▸ List.mem_of_getElem? found)
        rw [if_neg apart]
        exact indexed.index i other found
      · have place := List.getElem?_eq_some_iff.mp found
        simp only [List.length_singleton] at place
        obtain ⟨inside, rfl⟩ := place
        simp [len]
        omega
  have length : (queue.push address).len = queue.len + 1 := by simp [len, push]
  have content (other : Nat) : ((queue.push address).objects other).content =
      (queue.objects other).content := content_setIndex
  have old (i : Nat) (inside : i < queue.len) :
      (queue.push address).expiresAt i = queue.expiresAt i := by
    rw [expiresAt_of_content content, expiresAt, pointer, pointer, List.getD_eq_getElem?_getD,
      List.getD_eq_getElem?_getD, push, List.getElem?_append_left inside]
  have shuffled : Shuffled (queue.push address) (queue.heapPush address) := by
    refine @HeapInterface.up_stable _ heap (Shuffled (queue.push address)) (queue.len + 1)
      (fun s i j first second holds => ?_) _ _ (Nat.lt_succ_self _) start
    exact Shuffled.swap holds (by omega) (by omega)
  have sorted : (queue.heapPush address).Ordered (queue.len + 1) := by
    refine HeapInterface.up_ordered keys length.ge (Nat.lt_succ_self _) ⟨?_, ?_⟩ ?_
    · intro c first last self parent
      rw [old _ (by omega), old c (by omega)]
      exact ordered c first (by omega)
    all_goals
      intro c first last parent
      omega
  refine ⟨shuffled.indexed, ?_, ?_, fun other =>
    (shuffled.content other).trans (content other)⟩
  · rw [shuffled.len_eq, length]
    exact sorted
  · exact shuffled.slots.trans (List.perm_append_singleton address _)

end MemoryExpiryQueue
end JobQueue.Uniqueness
