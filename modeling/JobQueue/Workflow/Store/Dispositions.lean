import JobQueue.Workflow.Records

/-!
# Record validation and chain dispositions

The store-neutral decisions shared by every workflow store: which records may
be created, where a node stands in its chain, and whether a success or a
failure of that node can still be claimed. They are stated over arbitrary
states, including ones no store of this repository produces.
-/

namespace JobQueue.Workflow

/-- Position of the first node with the given identifier. -/
def chainNodePosition (nodes : List ChainNode) (nodeID : String) : Option Nat :=
  nodes.findIdx? fun node => node.nodeID == nodeID

/-- Slice indexing; an index out of range is the runtime panic of the source. -/
def nodeAt (nodes : List ChainNode) (index : Int) : Except GoError ChainNode :=
  if index < 0 then .error (.text "runtime error: index out of range")
  else
    match nodes[index.toNat]? with
    | some node => .ok node
    | none => .error (.text "runtime error: index out of range")

/-- Scan identifiers for an empty or repeated one. -/
def validateIDs (required duplicate : String) : List String -> List String -> Option GoError
  | _, [] => none
  | seen, id :: rest =>
    if id = "" then some (.text required)
    else if id ∈ seen then some (.text (duplicate ++ quoted id))
    else validateIDs required duplicate (id :: seen) rest

/-- Reject records whose node order is ambiguous. -/
def validateChainRecord (record : ChainRecord) : Option GoError :=
  if record.chainID = "" then some (.text "chain id is required")
  else if record.nodes = [] then
    some (.text "chain requires at least one node")
  else
    validateIDs "chain node id is required"
      "chain contains duplicate node id " [] (record.nodes.map (·.nodeID))

/-- Reject records whose member identity is ambiguous. -/
def validateBatchRecord (record : BatchRecord) : Option GoError :=
  if record.batchID = "" then some (.text "batch id is required")
  else if record.jobs = [] then
    some (.text "batch requires at least one job")
  else
    validateIDs "batch job id is required"
      "batch contains duplicate job id " [] (record.jobs.map (·.jobID))

variable (state : ChainState)

/-- Reject states that cannot prove which nodes committed. -/
def validateChainState : Option GoError :=
  match validateChainRecord
      { chainID := state.chainID, dispatchID := "", queue := "",
        nodes := state.nodes, createdAt := 0 } with
  | some error => some error
  | none =>
    if state.nextIndex < 0 ∨ (state.nodes.length : Int) < state.nextIndex then
      some (.text ("chain " ++ quoted state.chainID ++
        " has invalid next index " ++ toString state.nextIndex))
    else if state.completed ≠
        decide (state.nextIndex = (state.nodes.length : Int)) then
      some (.text ("chain " ++ quoted state.chainID ++ " completion does not match next index " ++
        toString state.nextIndex))
    else none

/-- The persisted chain has no node with this identifier. -/
def missingNodeError (nodeID : String) : GoError :=
  .text ("chain " ++ quoted state.chainID ++ " does not contain node " ++ quoted nodeID)

/-- A node was delivered out of order; the text names the node the chain is
waiting for. -/
def nodeOrderError (nodeID relation : String) : GoError :=
  match nodeAt state.nodes state.nextIndex with
  | .error panic => panic
  | .ok current =>
    .text ("chain " ++ quoted state.chainID ++ " received node " ++
      quoted nodeID ++ relation ++ quoted current.nodeID)

/-- The stored next index names no node. -/
def invalidNextIndexError : GoError :=
  .text ("chain " ++ quoted state.chainID ++ " has invalid next index " ++ toString state.nextIndex)

/-- Whether persisted order proves that the node's success won. -/
def chainNodeSuccessDisposition (nodeID : String) : Except GoError Bool :=
  match validateChainState state with
  | some error => .error error
  | none =>
    match chainNodePosition state.nodes nodeID with
    | none => .error (missingNodeError state nodeID)
    | some index =>
      if state.nextIndex < index then
        .error (nodeOrderError state nodeID " before node ")
      else .ok (decide ((index : Int) < state.nextIndex))

/-- What advancing past a node would do. -/
structure AdvanceDisposition where
  next : Option ChainNode := none
  done : Bool := false
  claimable : Bool := false
  deriving DecidableEq, Repr

/-- Immutable order validation before a store claims a node's success. -/
def chainNodeAdvanceDisposition (nodeID : String) : Except GoError AdvanceDisposition :=
  match chainNodePosition state.nodes nodeID with
  | none => .error (missingNodeError state nodeID)
  | some index =>
    if state.completed then .ok { done := true }
    else if state.nextIndex < 0 ∨
        (state.nodes.length : Int) ≤ state.nextIndex then
      .error (invalidNextIndexError state)
    else if state.failed then
      if state.nextIndex < index then
        .error (nodeOrderError state nodeID " after failure at node ")
      else .ok { done := true }
    else if state.nextIndex < index then
      .error (nodeOrderError state nodeID " before node ")
    else if (index : Int) = state.nextIndex then .ok { claimable := true }
    else
      match nodeAt state.nodes state.nextIndex with
      | .error panic => .error panic
      | .ok node => .ok { next := some node }

/-- What failing a node would do. -/
structure FailureDisposition where
  owned : Bool := false
  claimable : Bool := false
  deriving DecidableEq, Repr

/-- Whether failure owns a node, can still claim it, or lost to success. -/
def chainNodeFailureDisposition (nodeID : String) : Except GoError FailureDisposition :=
  match chainNodePosition state.nodes nodeID with
  | none => .error (missingNodeError state nodeID)
  | some index =>
    if state.completed then .ok {}
    else if state.nextIndex < 0 ∨
        (state.nodes.length : Int) ≤ state.nextIndex then
      .error (invalidNextIndexError state)
    else if state.failed then
      if state.nextIndex < index then
        .error (nodeOrderError state nodeID " after failure at node ")
      else .ok { owned := decide ((index : Int) = state.nextIndex) }
    else if (index : Int) < state.nextIndex then .ok {}
    else if state.nextIndex < index then
      .error (nodeOrderError state nodeID " before node ")
    else .ok { claimable := true }

/-! ## What an accepted record guarantees -/

theorem validateIDs_eq_none (accepted : validateIDs required duplicate seen ids = none) :
    ids.Nodup ∧ ∀ id ∈ ids, id ∉ seen := by
  induction ids generalizing seen with
  | nil => simp
  | cons id rest ih =>
    rw [validateIDs] at accepted
    split at accepted
    · cases accepted
    · split at accepted
      · cases accepted
      · rename_i fresh
        obtain ⟨nodup, unseen⟩ := ih accepted
        constructor
        · refine List.nodup_cons.mpr ⟨?_, nodup⟩
          intro present
          exact unseen id present List.mem_cons_self
        · intro other member
          rcases List.mem_cons.mp member with rfl | member
          · exact fresh
          · intro earlier
            exact unseen other member (List.mem_cons_of_mem _ earlier)

/-- A chain of two nodes, as it was created. -/
def twoNodeState : ChainState where
  chainID := "chain"
  dispatchID := "dispatch"
  queue := ""
  nodes := [⟨"first", { jobType := "a" }⟩, ⟨"second", { jobType := "b" }⟩]
  nextIndex := 0
  createdAt := 0
  updatedAt := 0

/-- An accepted chain record is non-empty and its node identifiers are
distinct. -/
theorem validateChainRecord_eq_none (accepted : validateChainRecord record = none) :
    record.chainID ≠ "" ∧ record.nodes ≠ [] ∧ (record.nodes.map (·.nodeID)).Nodup := by
  unfold validateChainRecord at accepted
  split at accepted
  · cases accepted
  · split at accepted
    · cases accepted
    · exact ⟨‹_›, ‹_›, (validateIDs_eq_none accepted).1⟩

/-- An accepted batch record is non-empty and its member identifiers are
distinct. -/
theorem validateBatchRecord_eq_none (accepted : validateBatchRecord record = none) :
    record.batchID ≠ "" ∧ record.jobs ≠ [] ∧ (record.jobs.map (·.jobID)).Nodup := by
  unfold validateBatchRecord at accepted
  split at accepted
  · cases accepted
  · split at accepted
    · cases accepted
    · exact ⟨‹_›, ‹_›, (validateIDs_eq_none accepted).1⟩

end JobQueue.Workflow
