import Mathlib.Data.List.Basic

/-!
# Keyed lists

A finite map held as a list of key-value pairs with in-place replacement. The
counting lemma says how replacing one entry changes the number of entries that
satisfy a predicate, which is what aggregate counters over a map rest on.
-/

namespace JobQueue.KeyedList

variable {κ ν : Type} [DecidableEq κ]

/-- Value stored under the first occurrence of a key. -/
def find (key : κ) : List (κ × ν) -> Option ν
  | [] => none
  | (candidate, value) :: rest =>
    if candidate = key then some value else find key rest

/-- Replace the value under the first occurrence of a key. -/
def replace (key : κ) (value : ν) : List (κ × ν) -> List (κ × ν)
  | [] => []
  | (candidate, current) :: rest =>
    if candidate = key then (candidate, value) :: rest
    else (candidate, current) :: replace key value rest

/-- Drop every entry under a key. -/
def erase (key : κ) (entries : List (κ × ν)) : List (κ × ν) :=
  entries.filter fun entry => entry.1 ≠ key

@[simp] theorem keys_replace (key : κ) (value : ν) (entries : List (κ × ν)) :
    (replace key value entries).map Prod.fst = entries.map Prod.fst := by
  induction entries with
  | nil => rfl
  | cons entry rest ih =>
    rw [replace]
    split <;> simp [ih]

@[simp] theorem length_replace (key : κ) (value : ν) (entries : List (κ × ν)) :
    (replace key value entries).length = entries.length := by
  have keys := congrArg List.length (keys_replace key value entries)
  rwa [List.length_map, List.length_map] at keys

variable {entries : List (κ × ν)}

/-- A replaced key holds its new value. -/
theorem find_replace_self (present : find key entries = some current) :
    find key (replace key value entries) = some value := by
  induction entries with
  | nil => cases present
  | cons entry rest ih =>
    rw [find] at present
    rw [replace]
    split
    · rename_i same
      simp [find, same]
    · rename_i different
      rw [if_neg different] at present
      simpa [find, different] using ih present

/-- Replacement leaves every other key alone. -/
theorem find_replace_of_ne (different : other ≠ key) :
    find other (replace key value entries) = find other entries := by
  induction entries with
  | nil => rfl
  | cons entry rest ih =>
    rw [replace]
    split
    · rename_i same
      have candidateNe : entry.1 ≠ other := by
        rw [same]
        exact different.symm
      simp [find, candidateNe]
    · simp [find, ih]

/-- An erased key finds nothing. -/
theorem find_erase_self : find key (erase key entries) = none := by
  induction entries with
  | nil => rfl
  | cons entry rest ih =>
    by_cases same : entry.1 = key
    · simpa [erase, same] using ih
    · simpa [erase, find, same] using ih

/-- Erasing leaves every other key alone. -/
theorem find_erase_of_ne (different : other ≠ key) :
    find other (erase key entries) = find other entries := by
  induction entries with
  | nil => rfl
  | cons entry rest ih =>
    by_cases same : entry.1 = key
    · simpa [erase, find, same, different.symm] using ih
    · simp only [erase, List.filter_cons, ne_eq, same, not_false_eq_true,
        decide_true, if_true, find]
      split
      · rfl
      · exact ih

/-- A new last entry is found unless its key is found before. -/
theorem find_append_singleton :
    find key (entries ++ [(candidate, value)]) =
      (find key entries).or (if candidate = key then some value else none) := by
  induction entries with
  | nil => rfl
  | cons entry rest ih =>
    rw [List.cons_append, find, find]
    split
    · rfl
    · exact ih

/-- Replacing one entry moves a count by that entry alone. -/
theorem countP_replace (predicate : κ × ν -> Bool) (present : find key entries = some current)
    (value : ν) :
    (replace key value entries).countP predicate + (if predicate (key, current) then 1 else 0) =
      entries.countP predicate + (if predicate (key, value) then 1 else 0) := by
  induction entries with
  | nil => cases present
  | cons entry rest ih =>
    obtain ⟨candidate, stored⟩ := entry
    rw [find] at present
    rw [replace]
    split
    · rename_i same
      rw [if_pos same] at present
      cases present
      subst same
      simp only [List.countP_cons]
      omega
    · rename_i different
      rw [if_neg different] at present
      have rest := ih present
      simp only [List.countP_cons]
      omega

/-- A key found in the list is one of its keys, with its value. -/
theorem mem_of_find_eq_some (present : find key entries = some value) : (key, value) ∈ entries := by
  induction entries with
  | nil => cases present
  | cons entry rest ih =>
    rw [find] at present
    split at present
    · rename_i same
      cases present
      subst same
      exact List.mem_cons_self
    · exact List.mem_cons_of_mem _ (ih present)

/-- With distinct keys, every entry is what its key finds. -/
theorem find_eq_some_of_mem (distinct : (entries.map Prod.fst).Nodup)
    (member : (key, value) ∈ entries) :
    find key entries = some value := by
  induction entries with
  | nil => cases member
  | cons entry rest ih =>
    rw [List.map_cons, List.nodup_cons] at distinct
    rw [find]
    rcases List.mem_cons.mp member with same | later
    · cases same
      simp
    · have different : entry.1 ≠ key := by
        intro same
        exact distinct.1 (same ▸ List.mem_map_of_mem later)
      simpa [different] using ih distinct.2 later

/-- An entry of an updated map is the new one or an old one. -/
theorem update_eq_some {entries : κ -> Option ν}
    (found : Function.update entries key (some new) other = some value) :
    other = key ∧ new = value ∨ other ≠ key ∧ entries other = some value := by
  by_cases same : other = key
  · subst same
    rw [Function.update_self, Option.some_inj] at found
    exact .inl ⟨rfl, found⟩
  · rw [Function.update_of_ne same] at found
    exact .inr ⟨same, found⟩

end JobQueue.KeyedList
