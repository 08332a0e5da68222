import JobQueue.Uniqueness.ExpiryQueue
import Mathlib.Data.List.Induction

/-!
# The in-memory uniqueness store

Claims live in a map by key and in the expiry queue; every acquisition first
reclaims what has elapsed. The two stay in step over every sequence of calls, and
while the clock does not go back a key can be acquired exactly when no earlier
acquisition of it is both unreleased and unexpired.
-/

namespace JobQueue.Uniqueness

/-- A claim of a key. -/
structure MemoryClaim where
  token : Nat
  expiresAt : Int
  expiry : Nat

/-- The store; the addresses below `allocated` have been handed out. -/
structure MemoryStore where
  next : Nat := 0
  entries : String -> Option MemoryClaim := fun _ => none
  expires : MemoryExpiryQueue := {}
  allocated : Nat := 0

namespace MemoryStore

variable (store : MemoryStore)

/-- Forget a key. -/
def deleteEntry (key : String) : MemoryStore :=
  { store with entries := Function.update store.entries key none }

/-- The loop of `pruneExpiredLocked`; every round pops one expiration. -/
def pruneLoop (now : Int) : Nat -> MemoryStore -> MemoryStore
  | 0, store => store
  | rounds + 1, store =>
    if 0 < store.expires.len ∧ ¬now < store.expires.expiresAt 0 then
      let (expires, popped) := store.expires.heapPop
      let expiry := expires.objects popped
      let store := { store with expires := expires }
      if (store.entries expiry.key).any (·.token = expiry.token) then
        pruneLoop now rounds (store.deleteEntry expiry.key)
      else pruneLoop now rounds store
    else store

/-- Forget the expired keys. -/
def pruneExpiredLocked (now : Int) : MemoryStore :=
  pruneLoop now store.expires.len store

/-- The token counter wraps around and skips zero. -/
def nextToken (next : Nat) : Nat :=
  let next := (next + 1) % 2 ^ 64
  if next = 0 then next + 1 else next

/-- The claim a free key gets, under a newly allocated expiration object. -/
def grant (key : String) (expiresAt : Int) : MemoryStore :=
  let token := nextToken store.next
  let address := store.allocated
  let expiry : MemoryExpiry := ⟨key, token, expiresAt, 0⟩
  let objects := Function.update store.expires.objects address expiry
  { next := token
    allocated := address + 1
    expires := { store.expires with objects := objects }.heapPush address
    entries := Function.update store.entries key (some ⟨token, expiresAt, address⟩) }

/-- `Acquire` at a clock reading; no token is a refusal. -/
def acquire (key : String) (ttl now : Int) : MemoryStore × Option Nat :=
  if key = "" ∨ ttl ≤ 0 then (store, none)
  else
    let store := store.pruneExpiredLocked now
    if (store.entries key).any (now < ·.expiresAt) then (store, none)
    else
      let store := store.grant key (now + ttl)
      (store, some store.next)

/-- Release a claim by its token. -/
def release (key : String) (token : Nat) : MemoryStore :=
  if key = "" ∨ token = 0 then store
  else match store.entries key with
    | none => store
    | some current =>
      if current.token = token then
        let index := (store.expires.objects current.expiry).index.toNat
        { store with expires := (store.expires.heapRemove index).1 }.deleteEntry key
      else store

/-- The map and the queue hold the same claims under distinct tokens, every
object knows its slot, and the queue is ordered by expiry. -/
structure Consistent : Prop where
  indexed : store.expires.Indexed
  ordered : store.expires.Ordered store.expires.len
  queued : ∀ key claim, store.entries key = some claim -> claim.expiry ∈ store.expires.slots ∧
      (store.expires.objects claim.expiry).content = (key, claim.token, claim.expiresAt)
  claimed : ∀ address ∈ store.expires.slots, store.entries (store.expires.objects address).key =
      some ⟨(store.expires.objects address).token,
        (store.expires.objects address).expiresAt, address⟩
  tokens : ∀ address ∈ store.expires.slots, 0 < (store.expires.objects address).token ∧
      (store.expires.objects address).token ≤ store.next ∧ (store.expires.objects address).key ≠ ""
  distinct : ∀ first ∈ store.expires.slots, ∀ second ∈ store.expires.slots,
    (store.expires.objects first).token = (store.expires.objects second).token -> first = second
  fresh : ∀ address ∈ store.expires.slots, address < store.allocated

variable {store}

theorem fields_of_content {first second : MemoryExpiry} (content : first.content = second.content) :
    first.key = second.key ∧ first.token = second.token ∧ first.expiresAt = second.expiresAt := by
  simpa [MemoryExpiry.content] using content

/-- Taking an object out of the queue and its key out of the map. -/
theorem Consistent.drop (consistent : store.Consistent) {expires : MemoryExpiryQueue}
    (removed : store.expires.Removed expires address) :
    ({ store with expires := expires }.deleteEntry
      (store.expires.objects address).key).Consistent := by
  have inside : address ∈ store.expires.slots := removed.slots.mem_iff.mpr (List.mem_cons_self ..)
  have gone : address ∉ expires.slots :=
    (List.nodup_cons.mp (removed.slots.nodup_iff.mp consistent.indexed.distinct)).1
  have old {other : Nat} (member : other ∈ expires.slots) : other ∈ store.expires.slots :=
    removed.slots.mem_iff.mpr (List.mem_cons_of_mem _ member)
  have fields (other : Nat) := fields_of_content (removed.content other)
  refine ⟨removed.indexed, removed.ordered, fun key claim found => ?_, fun other member => ?_,
    fun other member => ?_, fun first one second two same => ?_, fun other member =>
      consistent.fresh other (old member)⟩
  · simp only [deleteEntry, Function.update_apply] at found
    split at found
    · cases found
    · rename_i different
      obtain ⟨member, content⟩ := consistent.queued key claim found
      refine ⟨?_, (removed.content _).trans content⟩
      rcases List.mem_cons.mp (removed.slots.mem_iff.mp member) with same | rest
      · rw [same] at content
        exact absurd (congrArg Prod.fst content).symm different
      · exact rest
  · simp only [deleteEntry, fields]
    have found := consistent.claimed other (old member)
    rw [Function.update_of_ne, found]
    intro same
    rw [same, consistent.claimed _ inside] at found
    have equal : address = other := congrArg MemoryClaim.expiry (Option.some.inj found)
    exact gone (equal ▸ member)
  · simp only [deleteEntry, fields]
    exact consistent.tokens other (old member)
  · simp only [deleteEntry, fields] at same
    exact consistent.distinct first (old one) second (old two) same

/-- A claim whose expiry has not passed. -/
def live (now : Int) (claim : MemoryClaim) : Bool := now < claim.expiresAt

theorem Consistent.settled (consistent : store.Consistent)
    (future : ∀ i, i < store.expires.len -> now < store.expires.expiresAt i) (key : String) :
    store.entries key = (store.entries key).filter (live now) := by
  cases found : store.entries key with
  | none => rfl
  | some claim =>
    obtain ⟨member, content⟩ := consistent.queued key claim found
    obtain ⟨i, inside, place⟩ := List.mem_iff_getElem.mp member
    have ends : (store.expires.objects claim.expiry).expiresAt =
        claim.expiresAt := congrArg (·.2.2) content
    have later := future i inside
    rw [MemoryExpiryQueue.expiresAt, MemoryExpiryQueue.pointer, List.getD_eq_getElem?_getD,
      List.getElem?_eq_getElem inside, place, Option.getD_some, ends] at later
    simp [Option.filter, live, later]

/-- Pruning removes exactly the elapsed claims. -/
theorem pruneLoop_spec (now : Int) (consistent : store.Consistent)
    (enough : store.expires.len ≤ rounds) :
    (pruneLoop now rounds store).Consistent ∧ (pruneLoop now rounds store).next = store.next ∧
      ∀ key, (pruneLoop now rounds store).entries key = (store.entries key).filter (live now) := by
  induction rounds generalizing store with
  | zero => exact ⟨consistent, rfl, consistent.settled fun i inside => by omega⟩
  | succ rounds ih =>
    unfold pruneLoop
    split
    · rename_i elapsed
      obtain ⟨popped, removed⟩ := MemoryExpiryQueue.heapPop_spec
        consistent.indexed consistent.ordered elapsed.1
      have inside := List.mem_of_getElem? (MemoryExpiryQueue.getElem?_of_lt elapsed.1)
      have found := consistent.claimed _ inside
      have fields := fields_of_content (removed.content (store.expires.pointer 0))
      have shorter := removed.slots.length_eq
      simp only [popped, fields.1, fields.2.1]
      rw [if_pos (by simp [found])]
      obtain ⟨kept, same, pruned⟩ := ih (consistent.drop removed) (by
          simp only [deleteEntry, MemoryExpiryQueue.len, List.length_cons] at shorter enough ⊢
          omega)
      refine ⟨kept, same, fun key => (pruned key).trans ?_⟩
      simp only [deleteEntry, Function.update_apply]
      split
      · rename_i this
        rw [this, found]
        have past := elapsed.2
        unfold MemoryExpiryQueue.expiresAt at past
        simp [Option.filter, live, past]
      · rfl
    · rename_i stops
      refine ⟨consistent, rfl, consistent.settled fun i inside => ?_⟩
      have root := HeapInterface.Ordered.root_le consistent.ordered inside
      omega

/-- A new claim keeps the map and the queue in step. -/
theorem Consistent.grant (consistent : store.Consistent) (few : store.next + 1 < 2 ^ 64)
    (named : key ≠ "") (free : store.entries key = none) :
    (store.grant key expiresAt).Consistent ∧ (store.grant key expiresAt).next = store.next + 1 := by
  have counted : nextToken store.next = store.next + 1 := by
    rw [nextToken, Nat.mod_eq_of_lt few]
    exact if_neg (Nat.succ_ne_zero _)
  refine ⟨?_, counted⟩
  have unused : store.allocated ∉ store.expires.slots :=
    fun member => Nat.lt_irrefl _ (consistent.fresh _ member)
  have apart {address : Nat} (member : address ∈ store.expires.slots) :
      address ≠ store.allocated := fun same => unused (same ▸ member)
  let expiry : MemoryExpiry := ⟨key, nextToken store.next, expiresAt, 0⟩
  let queue : MemoryExpiryQueue := { store.expires with
    objects := Function.update store.expires.objects store.allocated expiry }
  have object {address : Nat} (member : address ∈ store.expires.slots) :
      queue.objects address = store.expires.objects address :=
    Function.update_of_ne (apart member) ..
  obtain ⟨indexed, ordered, slots, content⟩ := queue.heapPush_spec
    ⟨consistent.indexed.distinct, fun i address found => by
      rw [object (List.mem_of_getElem? found)]
      exact consistent.indexed.index i address found⟩
    (consistent.ordered.congr fun i inside => congrArg MemoryExpiry.expiresAt
      (object (List.mem_of_getElem? (MemoryExpiryQueue.getElem?_of_lt inside)))) unused
  have old {address : Nat} (member : address ∈ store.expires.slots) :=
    fields_of_content ((content address).trans (congrArg MemoryExpiry.content (object member)))
  have new := fields_of_content ((content store.allocated).trans (congrArg MemoryExpiry.content
      (Function.update_self store.allocated expiry store.expires.objects)))
  have shape : store.grant key expiresAt =
      { next := nextToken store.next
        allocated := store.allocated + 1
        expires := queue.heapPush store.allocated
        entries := Function.update store.entries key
          (some ⟨nextToken store.next, expiresAt, store.allocated⟩) } := rfl
  rw [shape, counted]
  generalize queue.heapPush store.allocated = final at *
  have either {address : Nat} (member : address ∈ final.slots) :
      address = store.allocated ∨ address ∈ store.expires.slots :=
    List.mem_cons.mp (slots.mem_iff.mp member)
  simp only [expiry, counted] at new
  refine ⟨indexed, ordered, fun other claim found => ?_, fun address member => ?_,
    fun address member => ?_, fun first one second two same => ?_, fun address member => ?_⟩
  · simp only [Function.update_apply] at found
    split at found
    · rename_i this
      obtain rfl := Option.some.inj found
      exact ⟨slots.mem_iff.mpr (List.mem_cons_self ..), by
        simp only [MemoryExpiry.content, new, this]⟩
    · obtain ⟨member, same⟩ := consistent.queued other claim found
      exact ⟨slots.mem_iff.mpr (List.mem_cons_of_mem _ member),
        (content _).trans ((congrArg _ (object member)).trans same)⟩
  · rcases either member with rfl | member
    · simp only [new, Function.update_self]
    · have found := consistent.claimed address member
      simp only [old member]
      rwa [Function.update_of_ne]
      intro this
      rw [this, free] at found
      cases found
  · rcases either member with rfl | member
    · simp only [new]
      exact ⟨Nat.succ_pos _, le_rfl, named⟩
    · obtain ⟨positive, issued, filled⟩ := consistent.tokens address member
      simp only [old member]
      exact ⟨positive, by omega, filled⟩
  · rcases either one with rfl | one <;> rcases either two with rfl | two
    · rfl
    · have bounds := consistent.tokens second two
      simp only [new, old two] at same
      omega
    · have bounds := consistent.tokens first one
      simp only [new, old one] at same
      omega
    · simp only [old one, old two] at same
      exact consistent.distinct first one second two same
  · rcases either member with rfl | member
    · exact Nat.lt_succ_self _
    · exact (consistent.fresh address member).trans (Nat.lt_succ_self _)

/-- What an acquisition does: it prunes, and grants a key that has no live
claim. -/
theorem acquire_eq (consistent : store.Consistent) (now : Int) (named : key ≠ "")
    (positive : 0 < ttl) :
    ∃ pruned : MemoryStore, pruned.Consistent ∧ pruned.next = store.next ∧
      (∀ other, pruned.entries other = (store.entries other).filter (live now)) ∧
      store.acquire key ttl now = if (pruned.entries key).isSome then
        (pruned, none)
      else (pruned.grant key (now + ttl), some (pruned.grant key (now + ttl)).next) := by
  obtain ⟨kept, same, pruned⟩ := pruneLoop_spec now consistent le_rfl
  refine ⟨store.pruneExpiredLocked now, kept, same, pruned, ?_⟩
  have held : ((store.pruneExpiredLocked now).entries key).any (now < ·.expiresAt) =
        ((store.pruneExpiredLocked now).entries key).isSome := by
    rw [show (store.pruneExpiredLocked now).entries key = _ from pruned key]
    cases store.entries key with
    | none => rfl
    | some claim => by_cases later : now < claim.expiresAt <;> simp [Option.filter, live, later]
  simp only [acquire, if_neg (not_or.mpr ⟨named, positive.not_ge⟩), held]

/-- Only the owner's token releases a claim. -/
theorem release_of_not_owner
    (foreign : ∀ claim, store.entries key = some claim -> claim.token ≠ token) :
    store.release key token = store := by
  unfold release
  split
  · rfl
  · split
    · rfl
    · rename_i claim found
      rw [if_neg (foreign claim found)]

theorem release_spec (consistent : store.Consistent) (key : String) (token : Nat) :
    (store.release key token).Consistent ∧ (store.release key token).next = store.next ∧
      ∀ other, (store.release key token).entries other = (store.entries other).filter fun claim =>
          ¬(other = key ∧ claim.token = token) := by
  by_cases owner : ∃ claim, store.entries key = some claim ∧ claim.token = token
  · obtain ⟨claim, found, rfl⟩ := owner
    obtain ⟨member, content⟩ := consistent.queued key claim found
    simp only [MemoryExpiry.content, Prod.mk.injEq] at content
    obtain ⟨i, inside, place⟩ := List.mem_iff_getElem.mp member
    have slot := List.getElem?_eq_getElem inside
    rw [place] at slot
    have index := consistent.indexed.index i _ slot
    have pointed : store.expires.pointer i = claim.expiry := by
      simp [MemoryExpiryQueue.pointer, slot]
    have removed := MemoryExpiryQueue.heapRemove_spec consistent.indexed consistent.ordered inside
    rw [pointed] at removed
    obtain ⟨positive, _, named⟩ := consistent.tokens _ member
    rw [content.1] at named
    rw [content.2.1] at positive
    have dropped := consistent.drop removed
    rw [content.1] at dropped
    have shape : store.release key claim.token =
        { store with expires := (store.expires.heapRemove i).1 }.deleteEntry key := by
      simp [release, found, named, positive.ne', index]
    rw [shape]
    refine ⟨dropped, rfl, fun other => ?_⟩
    simp only [deleteEntry, Function.update_apply]
    split
    · rename_i same
      simp [same, found, Option.filter]
    · rename_i different
      cases store.entries other <;> simp [Option.filter, different]
  · have foreign (claim : MemoryClaim) (found : store.entries key = some claim) :
        claim.token ≠ token := fun same => owner ⟨claim, found, same⟩
    rw [release_of_not_owner foreign]
    refine ⟨consistent, rfl, fun other => ?_⟩
    cases found : store.entries other with
    | none => rfl
    | some claim =>
      have kept : ¬(other = key ∧ claim.token = token) := fun both =>
        foreign claim (both.1 ▸ found) both.2
      simp [Option.filter, kept]

end MemoryStore

/-! ### Sequences of calls -/

/-- A call of a dispatcher. -/
inductive Call where
  | acquire (key : String) (ttl now : Int)
  | release (key : String) (token : Nat)

/-- The clock reading of a call. -/
def Call.reads : Call -> Option Int
  | .acquire key ttl now => if key = "" ∨ ttl ≤ 0 then none else some now
  | .release _ _ => none

/-- A successful acquisition. -/
structure Grant where
  key : String
  token : Nat
  expiresAt : Int
  deriving DecidableEq

/-- The store with the number of successful acquisitions and those of them that
have not been released. -/
structure History where
  store : MemoryStore := {}
  granted : Nat := 0
  unreleased : List Grant := []

/-- The history after a call. -/
def History.perform (history : History) : Call -> History
  | .acquire key ttl now =>
    let (store, result) := history.store.acquire key ttl now
    match result with
    | none => { history with store := store }
    | some token =>
      { store := store
        granted := history.granted + 1
        unreleased := ⟨key, token, now + ttl⟩ :: history.unreleased }
  | .release key token =>
    { history with
      store := history.store.release key token
      unreleased := history.unreleased.filter fun grant =>
        ¬(grant.key = key ∧ grant.token = token) }

/-- The history of calls. -/
def runs (calls : List Call) : History := calls.foldl History.perform {}

/-- The map holds unreleased grants only, and all that a later clock reading
still finds unexpired. -/
structure History.Faithful (history : History) (clocks : List Int) : Prop where
  consistent : history.store.Consistent
  counted : history.store.next = history.granted
  recorded : ∀ key claim, history.store.entries key = some claim ->
    ⟨key, claim.token, claim.expiresAt⟩ ∈ history.unreleased
  remembered : ∀ now, (∀ clock ∈ clocks, clock ≤ now) -> ∀ grant ∈ history.unreleased,
    now < grant.expiresAt -> ∃ claim, history.store.entries grant.key = some claim ∧
    claim.token = grant.token ∧ claim.expiresAt = grant.expiresAt

theorem History.granted_le (history : History) :
    history.granted ≤ (history.perform call).granted := by
  cases call with
  | release key token => exact le_rfl
  | acquire key ttl now =>
    simp only [perform]
    split
    · exact le_rfl
    · exact Nat.le_succ _

theorem History.Faithful.perform {history : History} (faithful : history.Faithful clocks)
    (few : (history.perform call).granted < 2 ^ 64) :
    (history.perform call).Faithful (clocks ++ call.reads.toList) := by
  obtain ⟨consistent, counted, recorded, remembered⟩ := faithful
  cases call with
  | release key token =>
    obtain ⟨kept, same, entries⟩ := MemoryStore.release_spec consistent key token
    refine ⟨kept, same.trans counted, fun other claim found => ?_,
      fun now later grant member live => ?_⟩
    · rw [History.perform, entries, Option.filter_eq_some_iff] at found
      exact List.mem_filter.mpr ⟨recorded other claim found.1, found.2⟩
    · obtain ⟨member, own⟩ := List.mem_filter.mp member
      obtain ⟨claim, found, token', ends⟩ := remembered now
        (fun clock inside => later clock (List.mem_append_left _ inside)) grant member live
      refine ⟨claim, ?_, token', ends⟩
      rw [History.perform, entries, found, Option.filter_some, token', if_pos own]
  | acquire key ttl now =>
    by_cases refused : key = "" ∨ ttl ≤ 0
    · have idle : history.perform (.acquire key ttl now) = history := by
        simp [History.perform, MemoryStore.acquire, refused]
      rw [idle, Call.reads, if_pos refused]
      simpa using (⟨consistent, counted, recorded, remembered⟩ : history.Faithful clocks)
    · obtain ⟨named, positive⟩ := not_or.mp refused
      obtain ⟨pruned, kept, same, entries, result⟩ :=
        MemoryStore.acquire_eq consistent now named (not_le.mp positive)
      -- an unexpired grant outlives the reclamation of this call
      have survives {later : Int} (passed : now ≤ later)
          (after : ∀ clock ∈ clocks, clock ≤ later) {grant : Grant}
          (member : grant ∈ history.unreleased)
          (live : later < grant.expiresAt) :
          ∃ claim, pruned.entries grant.key = some claim ∧
            claim.token = grant.token ∧ claim.expiresAt = grant.expiresAt := by
        obtain ⟨claim, found, owner, ends⟩ := remembered later after grant member live
        refine ⟨claim, ?_, owner, ends⟩
        rw [entries, found, Option.filter_some, if_pos]
        exact decide_eq_true (by omega)
      have recalled {other : String} {claim : MemoryClaim}
          (found : pruned.entries other = some claim) :
          ⟨other, claim.token, claim.expiresAt⟩ ∈ history.unreleased := by
        rw [entries, Option.filter_eq_some_iff] at found
        exact recorded other claim found.1
      simp only [History.perform, result, Call.reads, if_neg refused] at few ⊢
      cases held : pruned.entries key with
      | some current =>
        simp only [Option.isSome_some, if_true]
        refine ⟨kept, same.trans counted, fun _ _ => recalled,
          fun later after grant member live => ?_⟩
        exact survives (after now (by simp))
          (fun clock inside => after clock (List.mem_append_left _ inside)) member live
      | none =>
        simp only [held, Option.isSome_none, Bool.false_eq_true, if_false] at few
        simp only [Option.isSome_none, Bool.false_eq_true, if_false]
        obtain ⟨valid, next⟩ := kept.grant (by omega) named held
        refine ⟨valid, by rw [next, same, counted], fun other claim found => ?_,
          fun later after grant member live => ?_⟩
        · simp only [MemoryStore.grant, Function.update_apply] at found
          split at found
          · rename_i this
            obtain rfl := Option.some.inj found
            exact this ▸ List.mem_cons_self ..
          · exact List.mem_cons_of_mem _ (recalled found)
        · rcases List.mem_cons.mp member with rfl | member
          · exact ⟨_, Function.update_self .., rfl, rfl⟩
          · obtain ⟨claim, found, owns⟩ := survives (after now (by simp)) (fun clock inside =>
                after clock (List.mem_append_left _ inside)) member live
            refine ⟨claim, ?_, owns⟩
            simp only [MemoryStore.grant]
            rwa [Function.update_of_ne]
            intro this
            rw [this, held] at found
            cases found

/-- Every sequence of calls with fewer than `2 ^ 64` acquisitions is faithful. -/
theorem faithful_runs (few : (runs calls).granted < 2 ^ 64) :
    (runs calls).Faithful (calls.filterMap Call.reads) := by
  induction calls using List.reverseRecOn with
  | nil =>
    refine ⟨⟨⟨List.nodup_nil, ?_⟩, ?_, ?_, ?_, ?_, ?_, ?_⟩, rfl, ?_, ?_⟩
    all_goals simp [runs, HeapInterface.Ordered, MemoryExpiryQueue.len]
  | append_singleton calls call ih =>
    have step : runs (calls ++ [call]) = (runs calls).perform call := List.foldl_concat ..
    rw [step] at few ⊢
    have before := ih (((runs calls).granted_le).trans_lt few)
    have after := before.perform few
    rw [List.filterMap_append]
    cases reads : call.reads <;> simpa [reads] using after

/-- The in-memory uniqueness store over every sequence of calls: the map and the
queue stay in step, a token that does not own a claim releases nothing, and while
the clock does not go back an acquisition succeeds exactly if no earlier one of the
key is unreleased and unexpired. -/
theorem memory_store_claims (calls : List Call) (few : (runs calls).granted < 2 ^ 64) :
    (runs calls).store.Consistent ∧
      (∀ key token, (∀ claim, (runs calls).store.entries key = some claim -> claim.token ≠ token) ->
        (runs calls).store.release key token = (runs calls).store) ∧
      ∀ key ttl now, key ≠ "" -> 0 < ttl -> (∀ clock ∈ calls.filterMap Call.reads, clock ≤ now) ->
        (((runs calls).store.acquire key ttl now).2.isSome = true ↔
          ∀ grant ∈ (runs calls).unreleased, grant.key = key -> grant.expiresAt ≤ now) := by
  obtain ⟨consistent, counted, recorded, remembered⟩ := faithful_runs few
  refine ⟨consistent, fun key token => MemoryStore.release_of_not_owner,
    fun key ttl now named positive later => ?_⟩
  obtain ⟨pruned, kept, same, entries, result⟩ :=
    MemoryStore.acquire_eq consistent now named positive
  have found := entries key
  rw [result]
  cases held : pruned.entries key with
  | some claim =>
    rw [held, eq_comm, Option.filter_eq_some_iff] at found
    have live : now < claim.expiresAt := of_decide_eq_true found.2
    simp only [Option.isSome_some, if_true, Option.isSome_none,
      Bool.false_eq_true, false_iff, not_forall]
    exact ⟨_, recorded key claim found.1, rfl, live.not_ge⟩
  | none =>
    simp only [Option.isSome_none, Bool.false_eq_true, if_false, Option.isSome_some, true_iff]
    intro grant member about
    by_contra live
    obtain ⟨claim, stored, _, ends⟩ := remembered now later grant member (not_le.mp live)
    rw [held, ← about, stored, Option.filter_some, if_pos] at found
    · cases found
    · exact decide_eq_true (by omega)

theorem memory_store_claims_expired :
    ((runs [.acquire "a" 5 0, .acquire "a" 5 2]).store.acquire "a" 5 7).2.isSome = true := by
  have few : (runs [.acquire "a" 5 0, .acquire "a" 5 2]).granted < 2 ^ 64 := by decide +kernel
  refine ((memory_store_claims _ few).2.2 "a" 5 7 (by decide) (by decide)
    (by decide +kernel)).mpr ?_
  decide +kernel

end JobQueue.Uniqueness
