import Mathlib.Data.List.Induction
import Mathlib.Logic.Function.Basic

/-!
# Physical queue names and their weights

A logical queue name is trimmed and, when the default queue ends in `_default`,
put into the namespace of the default queue. Names that are equal after trimming,
and a name with and without the prefix of the namespace, get one physical name; their
weights then overwrite each other in the order in which the map of weights happens
to be ranged over.
-/

namespace JobQueue.QueueNames

/-- A string, which may hold any bytes. -/
abbrev Name := List UInt8

/-- The bytes of an ASCII text. -/
def ascii (text : String) : Name :=
  text.toList.map fun c => UInt8.ofNat c.toNat

/-- The encoded runes for which `unicode.IsSpace` holds. -/
def spaces : List Name :=
  [[0x09], [0x0A], [0x0B], [0x0C], [0x0D], [0x20], [0xC2, 0x85], [0xC2, 0xA0],
    [0xE1, 0x9A, 0x80], [0xE2, 0x80, 0xA8], [0xE2, 0x80, 0xA9],
    [0xE2, 0x80, 0xAF], [0xE2, 0x81, 0x9F], [0xE3, 0x80, 0x80]] ++
  (List.range 11).map fun offset => [0xE2, 0x80, UInt8.ofNat (0x80 + offset)]

/-- Drop encoded runes of the list from the front, at most as many as the fuel. -/
def trimFront (runes : List Name) : Nat -> Name -> Name
  | 0, name => name
  | fuel + 1, name =>
    match runes.find? (·.isPrefixOf name) with
    | none => name
    | some rune => trimFront runes fuel (name.drop rune.length)

/-- `strings.TrimSpace`. -/
def trimSpace (name : Name) : Name :=
  let front := trimFront spaces name.length name
  (trimFront (spaces.map List.reverse) front.length front.reverse).reverse

/-- What stands in front of the names of a namespace; nothing without one. -/
def queueNamePrefix (defaultQueue : Name) : Name :=
  let defaultQueue := trimSpace defaultQueue
  let suffix := ascii "_default"
  if ¬suffix.isSuffixOf defaultQueue then []
  else
    let stem := defaultQueue.take (defaultQueue.length - suffix.length)
    if stem = [] then [] else stem ++ ascii "_"

/-- `PhysicalQueueName`. -/
def physicalQueueName (defaultQueue queueName : Name) : Name :=
  let defaultQueue := trimSpace defaultQueue
  let queueName := trimSpace queueName
  let namespaced := queueNamePrefix defaultQueue
  if queueName = [] then defaultQueue
  else if namespaced = [] then queueName
  else if namespaced.isPrefixOf queueName then queueName
  else namespaced ++ queueName

/-- A map of logical names to weights, as the list of its entries in some
order. -/
structure QueueWeights where
  entries : List (Name × Int)
  distinct : (entries.map Prod.fst).Nodup

/-- `PhysicalQueueWeights`, with the entries in the order in which they are
ranged over; the empty map is returned as it is. -/
def physicalQueueWeights (defaultQueue : Name) (entries : List (Name × Int)) : Name -> Option Int :=
  entries.foldl (fun out entry =>
    Function.update out (physicalQueueName defaultQueue entry.1) (some entry.2))
    fun _ => none

/-! ### Names of one queue -/

/-- The logical name of a queue; an empty one stands for the default queue. -/
def logicalName (defaultQueue queueName : Name) : Name :=
  if trimSpace queueName = [] then trimSpace defaultQueue else trimSpace queueName

/-- Two names mean one queue: their logical names are equal, or one of them is the
other one, from outside of the namespace, with the prefix. -/
def SameQueue (defaultQueue first second : Name) : Prop :=
  let namespaced := queueNamePrefix defaultQueue
  let first := logicalName defaultQueue first
  let second := logicalName defaultQueue second
  first = second ∨ (¬namespaced <+: first ∧ second = namespaced ++ first) ∨
    (¬namespaced <+: second ∧ first = namespaced ++ second)

section

variable {runes : List Name} {name : Name}

/-- Only the front is dropped. -/
theorem trimFront_suffix (fuel : Nat) (name : Name) : trimFront runes fuel name <:+ name := by
  induction fuel generalizing name with
  | zero => exact List.suffix_rfl
  | succ fuel ih =>
    rw [trimFront]
    split
    · exact List.suffix_rfl
    · exact (ih _).trans (List.drop_suffix _ _)

/-- A name that starts with none of the runes is kept. -/
theorem trimFront_of_none (none : runes.find? (·.isPrefixOf name) = none) :
    trimFront runes fuel name = name := by
  cases fuel with
  | zero => rfl
  | succ fuel => rw [trimFront, none]

/-- The fuel suffices: what is left starts with none of the runes. -/
theorem find?_trimFront (present : [] ∉ runes) (enough : name.length ≤ fuel) :
    runes.find? (·.isPrefixOf (trimFront runes fuel name)) = none := by
  induction fuel generalizing name with
  | zero =>
    cases List.length_eq_zero_iff.mp (Nat.le_zero.mp enough)
    refine List.find?_eq_none.mpr fun rune member => ?_
    cases rune with
    | nil => exact absurd member present
    | cons => simp [trimFront]
  | succ fuel ih =>
    rw [trimFront]
    split
    · assumption
    · rename_i rune found
      have long : rune.length ≠ 0 := fun empty => present
        (List.length_eq_zero_iff.mp empty ▸ List.mem_of_find?_eq_some found)
      exact ih (by rw [List.length_drop]; omega)

end

/-- Trimming leaves a name without space at both ends. -/
theorem trimSpace_idem (name : Name) : trimSpace (trimSpace name) = trimSpace name := by
  have begins := @find?_trimFront spaces name name.length (by decide +kernel) (Nat.le_refl _)
  unfold trimSpace
  dsimp only
  generalize trimFront spaces name.length name = front at *
  have back := @find?_trimFront (spaces.map List.reverse) front.reverse front.length
    (by decide +kernel) (by simp)
  have shorter := List.reverse_prefix.mpr
    (@trimFront_suffix (spaces.map List.reverse) front.length front.reverse)
  generalize trimFront (spaces.map List.reverse) front.length front.reverse = rest at *
  rw [List.reverse_reverse] at shorter
  have clear : spaces.find? (·.isPrefixOf rest.reverse) = none := by
    rw [List.find?_eq_none] at begins ⊢
    intro rune member starts
    exact begins rune member (List.isPrefixOf_iff_prefix.mpr
      ((List.isPrefixOf_iff_prefix.mp starts).trans shorter))
  rw [trimFront_of_none clear, List.reverse_reverse, trimFront_of_none back]

/-- The default queue lies in its own namespace. -/
theorem queueNamePrefix_begins (defaultQueue : Name) :
    queueNamePrefix defaultQueue <+: trimSpace defaultQueue := by
  unfold queueNamePrefix
  generalize trimSpace defaultQueue = name
  dsimp only
  split
  · exact List.nil_prefix
  · rename_i ends
    obtain ⟨stem, rfl⟩ := List.isSuffixOf_iff_suffix.mp (not_not.mp ends)
    rw [List.length_append, Nat.add_sub_cancel, List.take_left]
    split
    · exact List.nil_prefix
    · refine (List.prefix_append_right_inj stem).mpr ?_
      exact List.isPrefixOf_iff_prefix.mp (by decide +kernel)

/-- The physical name is the logical one, inside of the namespace. -/
theorem physicalQueueName_eq (defaultQueue queueName : Name) :
    physicalQueueName defaultQueue queueName =
      if queueNamePrefix defaultQueue <+: logicalName defaultQueue queueName then
        logicalName defaultQueue queueName
      else queueNamePrefix defaultQueue ++ logicalName defaultQueue queueName := by
  have trimmed : queueNamePrefix (trimSpace defaultQueue) = queueNamePrefix defaultQueue := by
    rw [queueNamePrefix, queueNamePrefix, trimSpace_idem]
  simp only [physicalQueueName, trimmed, logicalName]
  split
  · rw [if_pos (queueNamePrefix_begins defaultQueue)]
  · split
    · rename_i outside
      rw [outside, if_pos List.nil_prefix]
    · simp only [List.isPrefixOf_iff_prefix]

/-- Names have one physical name exactly if they mean one queue. -/
theorem physicalQueueName_eq_iff :
    physicalQueueName defaultQueue first = physicalQueueName defaultQueue second ↔
      SameQueue defaultQueue first second := by
  rw [physicalQueueName_eq, physicalQueueName_eq, SameQueue]
  generalize logicalName defaultQueue first = left
  generalize logicalName defaultQueue second = right
  generalize queueNamePrefix defaultQueue = namespaced
  by_cases inside : namespaced <+: left <;> by_cases also : namespaced <+: right
  · simp [inside, also]
  · simp only [inside, also, if_true, if_false, not_true, not_false_eq_true, false_and,
      true_and, false_or]
    refine ⟨.inr, fun same => same.resolve_left fun equal => also (equal ▸ inside)⟩
  · simp only [inside, also, if_true, if_false, not_true, not_false_eq_true, false_and,
      true_and, or_false]
    refine ⟨fun same => .inr same.symm, fun same =>
      (same.resolve_left fun equal => inside (equal ▸ also)).symm⟩
  · simp only [inside, also, if_false, not_false_eq_true, true_and]
    refine ⟨fun same => .inl (List.append_cancel_left same), ?_⟩
    rintro (same | same | same)
    · rw [same]
    · exact absurd (same ▸ List.prefix_append namespaced left) also
    · exact absurd (same ▸ List.prefix_append namespaced right) inside

/-! ### Weights -/

/-- The last weight of a physical queue counts. -/
theorem physicalQueueWeights_concat :
    physicalQueueWeights defaultQueue (entries ++ [entry]) =
      Function.update (physicalQueueWeights defaultQueue entries)
        (physicalQueueName defaultQueue entry.1) (some entry.2) :=
  List.foldl_append

/-- A physical name that no logical name has gets no weight. -/
theorem physicalQueueWeights_of_absent
    (absent : ∀ entry ∈ entries, physicalQueueName defaultQueue entry.1 ≠ physical) :
    physicalQueueWeights defaultQueue entries physical = none := by
  induction entries using List.reverseRecOn with
  | nil => rfl
  | append_singleton entries entry ih =>
    rw [physicalQueueWeights_concat, Function.update_of_ne (absent entry (by simp)).symm]
    exact ih fun other listed => absent other (List.mem_append_left _ listed)

/-- A physical name whose logical names all have one weight gets that weight. -/
theorem physicalQueueWeights_of_agree
    (agree : ∀ entry ∈ entries,
      physicalQueueName defaultQueue entry.1 = physical -> entry.2 = weight)
    (listed : ∃ entry ∈ entries, physicalQueueName defaultQueue entry.1 = physical) :
    physicalQueueWeights defaultQueue entries physical = some weight := by
  induction entries using List.reverseRecOn with
  | nil => simp at listed
  | append_singleton entries entry ih =>
    rw [physicalQueueWeights_concat, Function.update_apply]
    split
    · rename_i same
      rw [agree entry (by simp) same.symm]
    · rename_i other
      refine ih (fun entry member => agree entry (List.mem_append_left _ member)) ?_
      obtain ⟨found, member, named⟩ := listed
      rcases List.mem_append.mp member with earlier | last
      · exact ⟨found, earlier, named⟩
      · rw [List.mem_singleton.mp last] at named
        exact absurd named.symm other

/-- The weights do not depend on the order in which the map is ranged over, and
every logical name finds its own weight, exactly if logical names of one queue have
one weight. -/
theorem queue_weights_function_iff (defaultQueue : Name) (weights : QueueWeights) :
    (∀ first ∈ weights.entries, ∀ second ∈ weights.entries,
      SameQueue defaultQueue first.1 second.1 -> first.2 = second.2) ↔
    (∀ order other, order.Perm weights.entries -> other.Perm weights.entries ->
      physicalQueueWeights defaultQueue order = physicalQueueWeights defaultQueue other) ∧
    ∀ order, order.Perm weights.entries -> ∀ entry ∈ weights.entries,
      physicalQueueWeights defaultQueue order
        (physicalQueueName defaultQueue entry.1) = some entry.2 := by
  simp only [← physicalQueueName_eq_iff]
  constructor
  · intro agree
    have own : ∀ order, order.Perm weights.entries -> ∀ entry ∈ weights.entries,
        physicalQueueWeights defaultQueue order
          (physicalQueueName defaultQueue entry.1) = some entry.2 := by
      intro order permuted entry listed
      refine physicalQueueWeights_of_agree (fun other member same => ?_)
        ⟨entry, permuted.mem_iff.mpr listed, rfl⟩
      exact agree other (permuted.mem_iff.mp member) entry listed same
    refine ⟨fun order other permuted otherPermuted => funext fun physical => ?_, own⟩
    by_cases hit : ∃ entry ∈ weights.entries, physicalQueueName defaultQueue entry.1 = physical
    · obtain ⟨entry, listed, rfl⟩ := hit
      rw [own order permuted entry listed, own other otherPermuted entry listed]
    · have absent : ∀ entry ∈ weights.entries, physicalQueueName defaultQueue entry.1 ≠ physical :=
        fun entry listed same => hit ⟨entry, listed, same⟩
      rw [physicalQueueWeights_of_absent fun entry listed =>
          absent entry (permuted.mem_iff.mp listed),
        physicalQueueWeights_of_absent fun entry listed =>
          absent entry (otherPermuted.mem_iff.mp listed)]
  · rintro ⟨_, own⟩ first listed second also same
    have here := own _ (.refl _) first listed
    rw [same, own _ (.refl _) second also] at here
    exact (Option.some.inj here).symm

/-- A name inside and a name outside of the namespace overwrite each other. -/
theorem queue_weights_collide :
    let reports := (ascii "reports", (1 : Int))
    let inside := (ascii "app_reports", (2 : Int))
    let physical := ascii "app_reports"
    physicalQueueWeights (ascii "app_default") [reports, inside] physical = some 2 ∧
      physicalQueueWeights (ascii "app_default") [inside, reports] physical = some 1 := by
  decide +kernel

end JobQueue.QueueNames
