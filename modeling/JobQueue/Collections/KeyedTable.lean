import JobQueue.Collections.KeyedList
import Mathlib.Data.List.Nodup

/-!
# Tables with a primary key

A table is a list of rows under distinct keys. One statement changes or
deletes every row it selects; what it does is said through the lookup of single
rows, so that users never look at the list.
-/

namespace JobQueue

/-- Rows under distinct primary keys. -/
structure KeyedTable (κ ν : Type) where
  entries : List (κ × ν)
  distinct : (entries.map Prod.fst).Nodup

namespace KeyedTable

variable {κ ν : Type} [DecidableEq κ] (table : KeyedTable κ ν)

/-- A table without rows. -/
def empty : KeyedTable κ ν := ⟨[], List.nodup_nil⟩

/-- The row under a key. -/
def get (key : κ) : Option ν :=
  KeyedList.find key table.entries

@[simp] theorem get_empty : (empty : KeyedTable κ ν).get key = none := rfl

/-- One entry after a statement. -/
def changed (selects : κ -> ν -> Bool) (change : ν -> Option ν) (entry : κ × ν) : Option (κ × ν) :=
  if selects entry.1 entry.2 then (change entry.2).map (entry.1, ·)
  else some entry

theorem fst_of_changed (kept : changed selects change entry = some next) : next.1 = entry.1 := by
  unfold changed at kept
  split at kept
  · obtain ⟨value, _, rfl⟩ := Option.map_eq_some_iff.mp kept
    rfl
  · cases kept
    rfl

omit [DecidableEq κ] in
/-- Changing rows keeps the keys that stay in their order. -/
theorem keys_filterMap_changed (entries : List (κ × ν)) :
    ((entries.filterMap (changed selects change)).map Prod.fst).Sublist (entries.map Prod.fst) := by
  induction entries with
  | nil => exact .slnil
  | cons entry rest ih =>
    cases kept : changed selects change entry with
    | none =>
      rw [List.filterMap_cons_none kept]
      exact .cons _ ih
    | some next =>
      rw [List.filterMap_cons_some kept, List.map_cons, List.map_cons, fst_of_changed kept]
      exact .cons_cons _ ih

/-- Change or delete every selected row. -/
def update (selects : κ -> ν -> Bool) (change : ν -> Option ν) : KeyedTable κ ν where
  entries := table.entries.filterMap (changed selects change)
  distinct := table.distinct.sublist (keys_filterMap_changed _)

/-- Number of rows a statement selects. -/
def affected (selects : κ -> ν -> Bool) : Nat :=
  table.entries.countP fun entry => selects entry.1 entry.2

theorem find_eq_none_of_not_mem {entries : List (κ × ν)} (absent : key ∉ entries.map Prod.fst) :
    KeyedList.find key entries = none := by
  cases found : KeyedList.find key entries with
  | none => rfl
  | some value => exact absurd (List.mem_map_of_mem (KeyedList.mem_of_find_eq_some found)) absent

/-- What a statement does to the row under a key. -/
theorem get_update (change : ν -> Option ν) :
    (table.update selects change).get key = (table.get key).bind fun row =>
        if selects key row then change row else some row := by
  obtain ⟨entries, distinct⟩ := table
  simp only [get, update]
  induction entries with
  | nil => rfl
  | cons entry rest ih =>
    obtain ⟨candidate, row⟩ := entry
    rw [List.map_cons, List.nodup_cons] at distinct
    have later := ih distinct.2
    by_cases same : candidate = key
    · subst same
      have absent : candidate ∉ (rest.filterMap (changed selects change)).map Prod.fst :=
        fun member => distinct.1 ((keys_filterMap_changed _).subset member)
      cases kept : changed selects change (candidate, row) with
      | none =>
        rw [List.filterMap_cons_none kept, find_eq_none_of_not_mem absent]
        unfold changed at kept
        split at kept
        · rename_i selected
          have deleted := Option.map_eq_none_iff.mp kept
          simp_all [KeyedList.find]
        · cases kept
      | some next =>
        rw [List.filterMap_cons_some kept]
        unfold changed at kept
        split at kept
        · rename_i selected
          obtain ⟨value, altered, rfl⟩ := Option.map_eq_some_iff.mp kept
          simp_all [KeyedList.find]
        · cases kept
          simp_all [KeyedList.find]
    · have skip : KeyedList.find key ((candidate, row) :: rest) =
          KeyedList.find key rest := by simp [KeyedList.find, same]
      rw [skip, ← later]
      cases kept : changed selects change (candidate, row) with
      | none => rw [List.filterMap_cons_none kept]
      | some next =>
        rw [List.filterMap_cons_some kept]
        have other : next.1 ≠ key := by
          rw [fst_of_changed kept]
          exact same
        simp [KeyedList.find, other]

/-- A statement about one key selects the row under it or nothing. -/
theorem affected_single {selects : κ -> ν -> Bool}
    (single : ∀ other row, selects other row = true -> other = key) :
    table.affected selects = ((table.get key).any (selects key)).toNat := by
  obtain ⟨entries, distinct⟩ := table
  simp only [affected, get]
  induction entries with
  | nil => rfl
  | cons entry rest ih =>
    obtain ⟨candidate, row⟩ := entry
    rw [List.map_cons, List.nodup_cons] at distinct
    have later := ih distinct.2
    rw [List.countP_cons, later]
    by_cases same : candidate = key
    · subst same
      simp only [find_eq_none_of_not_mem distinct.1, KeyedList.find]
      cases chosen : selects candidate row <;> simp [chosen]
    · have unselected : selects candidate row = false := by
        rw [Bool.eq_false_iff]
        exact fun selected => same (single _ _ selected)
      simp [KeyedList.find, same, unselected]

omit [DecidableEq κ] in
/-- A statement that selects no row changes nothing. -/
theorem update_eq_self (unaffected : table.affected selects = 0) :
    table.update selects change = table := by
  obtain ⟨entries, distinct⟩ := table
  have none_selected : ∀ entry ∈ entries, ¬(selects entry.1 entry.2) = true :=
    List.countP_eq_zero.mp unaffected
  simp only [update, mk.injEq]
  clear unaffected distinct
  induction entries with
  | nil => rfl
  | cons entry rest ih =>
    have first : changed selects change entry = some entry := by
      simp [changed, none_selected entry List.mem_cons_self]
    rw [List.filterMap_cons_some first, ih]
    intro other member
    exact none_selected other (List.mem_cons_of_mem _ member)

/-- Add a row under a key that has none. -/
def insert (key : κ) (row : ν) : KeyedTable κ ν :=
  if fresh : key ∈ table.entries.map Prod.fst then table
  else
    { entries := table.entries ++ [(key, row)]
      distinct := by
        rw [List.map_append]
        exact List.nodup_append.mpr ⟨table.distinct, by simp, by
          intro first member second single same
          simp only [List.map_cons, List.map_nil, List.mem_singleton] at single
          exact fresh (single ▸ same ▸ member)⟩ }

/-- The rows after a row was added under a key that had none. -/
theorem get_insert (fresh : table.get key = none) :
    (table.insert key row).get other = if other = key then some row else table.get other := by
  have absent : key ∉ table.entries.map Prod.fst := by
    intro member
    obtain ⟨entry, found, rfl⟩ := List.mem_map.mp member
    have present : KeyedList.find entry.1 table.entries = some entry.2 :=
      KeyedList.find_eq_some_of_mem table.distinct found
    simp only [get] at fresh
    rw [present] at fresh
    cases fresh
  simp only [insert, absent, dite_false, get]
  rw [KeyedList.find_append_singleton]
  by_cases same : other = key
  · subst same
    simp only [get] at fresh
    simp [fresh]
  · simp [same, Ne.symm same]

/-- Store a row under a key, in place of the row that is there. -/
def set (key : κ) (row : ν) : KeyedTable κ ν :=
  if (table.get key).isSome then
    { entries := KeyedList.replace key row table.entries
      distinct := by
        rw [KeyedList.keys_replace]
        exact table.distinct }
  else table.insert key row

@[simp] theorem get_set (other : κ) :
    (table.set key row).get other = if other = key then some row else table.get other := by
  unfold set
  split
  · rename_i present
    obtain ⟨current, found⟩ := Option.isSome_iff_exists.mp present
    by_cases same : other = key
    · subst same
      rw [if_pos rfl]
      exact KeyedList.find_replace_self found
    · rw [if_neg same]
      exact KeyedList.find_replace_of_ne same
  · rename_i absent
    exact get_insert table (Option.not_isSome_iff_eq_none.mp absent)

/-- The rows in any order are the ones found by their keys. -/
theorem mem_iff_get {order : List (κ × ν)}
    (permuted : order.Perm table.entries) (key : κ) (row : ν) :
    (key, row) ∈ order ↔ table.get key = some row := by
  rw [permuted.mem_iff]
  exact ⟨fun member => KeyedList.find_eq_some_of_mem table.distinct member,
    KeyedList.mem_of_find_eq_some⟩

end KeyedTable
end JobQueue
