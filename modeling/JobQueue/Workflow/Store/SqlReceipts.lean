import JobQueue.Workflow.Store.Sql

/-!
# Writing receipts in a transaction

What `insertTransitionReceipt` leaves behind: without a valid owner nothing, and
otherwise one row under the key of the receipt that agrees with it in every
field except the timestamp. Rows under other keys stay.
-/

namespace JobQueue

namespace KeyedList

variable {κ ν : Type} [DecidableEq κ]

/-- Dropping rows of other keys does not change what a key finds. -/
theorem find_filter (entries : List (κ × ν))
    (kept : ∀ entry ∈ entries, entry.1 = key -> keep entry = true) :
    find key (entries.filter keep) = find key entries := by
  induction entries with
  | nil => rfl
  | cons entry rest ih =>
    have later := ih fun other member =>
      kept other (List.mem_cons_of_mem _ member)
    by_cases same : entry.1 = key
    · rw [List.filter_cons_of_pos (kept entry List.mem_cons_self same)]
      simp [find, same]
    · rw [List.filter_cons]
      split
      · simpa [find, same] using later
      · simpa [find, same] using later

end KeyedList

namespace Workflow

/-- The key of a receipt. -/
def TransitionReceipt.key (receipt : TransitionReceipt) : TransitionReceiptKey :=
  { workflowKind := receipt.workflowKind
    workflowID := receipt.workflowID
    memberID := receipt.memberID }

/-- The receipt as its row keeps it. -/
def TransitionReceipt.stored (receipt : TransitionReceipt) : TransitionReceipt :=
  { receipt with createdAt := storedInstant receipt.createdAt }

@[simp] theorem sameTransitionReceipt_stored :
    sameTransitionReceipt receipt receipt.stored = true := by
  simp [sameTransitionReceipt, TransitionReceipt.stored]

namespace Database

/-- Reading a receipt inside a transaction. -/
theorem getTransitionReceipt_queryer (db : Database) :
    (getTransitionReceipt db.queryer kind workflowID memberID : Id _) =
      match KeyedList.find ⟨kind, workflowID, memberID⟩ db.transitionReceipts with
      | none => .ok none
      | some receipt =>
        match checkReceiptRow receipt with
        | some error => .error error
        | none => .ok (some receipt) := by
  unfold getTransitionReceipt queryer
  cases found : KeyedList.find ⟨kind, workflowID, memberID⟩ db.transitionReceipts with
  | none =>
    simp only [found]
    rfl
  | some receipt =>
    simp only [found]
    change (match checkReceiptRow receipt with
      | some error => (pure (Except.error error) : Id _)
      | none => pure (Except.ok (some receipt))) = _
    cases checkReceiptRow receipt <;> rfl

variable {db : Database}

/-- The rows without those of an earlier incarnation of the workflow. -/
def currentReceipts (db : Database) (receipt : TransitionReceipt) :
    List (TransitionReceiptKey × TransitionReceipt) :=
  db.transitionReceipts.filter fun row =>
    !(decide (row.1 = receipt.key) && (row.2.workflowDispatchID != receipt.workflowDispatchID ||
        row.2.workflowCreatedAt != receipt.workflowCreatedAt))

/-- The rows after the insertion, which keeps an existing row. -/
def insertedReceipts (db : Database) (receipt : TransitionReceipt) :
    List (TransitionReceiptKey × TransitionReceipt) :=
  match KeyedList.find receipt.key (db.currentReceipts receipt) with
  | some _ => db.currentReceipts receipt
  | none => db.currentReceipts receipt ++ [(receipt.key, receipt.stored)]

theorem find_insertedReceipts_of_ne (db : Database) (different : other ≠ receipt.key) :
    KeyedList.find other (db.insertedReceipts receipt) =
      KeyedList.find other db.transitionReceipts := by
  have current : KeyedList.find other (db.currentReceipts receipt) =
      KeyedList.find other db.transitionReceipts := by
    apply KeyedList.find_filter
    intro entry _ same
    simp [same, different]
  unfold insertedReceipts
  split
  · exact current
  · rw [KeyedList.find_append_singleton, current, if_neg different.symm, Option.or_none]

/-- What a successful insertion leaves behind. -/
theorem insertTransitionReceipt_cases
    (inserted : db.insertTransitionReceipt receipt = .ok (persisted, final)) :
    (receipt.owner.valid = false ∧ persisted = none ∧ final = db) ∨
    (receipt.owner.valid = true ∧ ∃ row,
      persisted = some row ∧ row = { receipt with createdAt := row.createdAt } ∧
      final = { db with transitionReceipts := db.insertedReceipts receipt } ∧
      KeyedList.find receipt.key (db.insertedReceipts receipt) = some row) := by
  cases valid : receipt.owner.valid with
  | false =>
    rw [insertTransitionReceipt, if_neg (by simp [valid])] at inserted
    cases inserted
    exact .inl ⟨rfl, rfl, rfl⟩
  | true =>
    rw [insertTransitionReceipt, if_pos valid] at inserted
    dsimp only at inserted
    split at inserted
    · cases inserted
    · cases inserted
    · rename_i row read
      split at inserted
      · rename_i same
        cases inserted
        have matching : row = { receipt with createdAt := row.createdAt } := by
          have fields := of_decide_eq_true same
          cases receipt
          cases row
          simp_all
        refine .inr ⟨rfl, row, rfl, matching, rfl, ?_⟩
        rw [getTransitionReceipt_queryer] at read
        split at read
        · cases read
        · rename_i found
          split at read <;> cases read
          exact found
      · cases inserted

/-- The row of a receipt with a valid owner agrees with it. -/
theorem insertTransitionReceipt_valid (valid : receipt.owner.valid = true)
    (inserted : db.insertTransitionReceipt receipt = .ok (persisted, final)) :
    ∃ row, persisted = some row ∧ row = { receipt with createdAt := row.createdAt } ∧
      KeyedList.find receipt.key final.transitionReceipts = some row := by
  rcases insertTransitionReceipt_cases inserted with
    ⟨invalid, _⟩ | ⟨_, row, same, agrees, rfl, found⟩
  · simp [valid] at invalid
  · exact ⟨row, same, agrees, found⟩

/-- Only the receipts change. -/
theorem insertTransitionReceipt_eq
    (inserted : db.insertTransitionReceipt receipt = .ok (persisted, final)) :
    final = { db with transitionReceipts := final.transitionReceipts } := by
  rcases insertTransitionReceipt_cases inserted with ⟨_, _, same⟩ | ⟨_, _, _, _, same, _⟩
  · rw [same]
  · rw [same]

/-- The row a chain update finds. -/
theorem chainUnmoved_eq_some (unmoved : db.chainUnmoved chainID nextIndex = some row) :
    db.chains chainID = some row ∧ row.nextIndex = nextIndex ∧
      row.completed = false ∧ row.failed = false := by
  unfold chainUnmoved at unmoved
  rw [Option.filter_eq_some_iff] at unmoved
  simpa [and_assoc] using unmoved

end Database

end Workflow
end JobQueue
