import JobQueue.Runtime.Ownership

/-!
# No registration is lost

A registration reaches a backend through a slot that is never moved: the
backend is handed one trampoline for each job type, and later registrations of
the type replace the handler behind it. `registrations` remembers which
trampolines the current worker has. From the moment the worker is about to be
activated on, `Register` installs new types itself, so every registered type is
installed exactly once.
-/

namespace JobQueue.Lifecycle

open Interleaving

/-! ## Tables -/

/-- The handler tables of a runtime and the calls its worker has received. -/
structure Tables (registered : KeyedTable String Handler) (slots : Slots)
    (registrations : List String) (backend : Backend) : Prop where
  slot : ∀ jobType handler, registered.get jobType = some handler ->
    ∃ slot, slots.handlerSlots.get jobType = some slot ∧ slots.invoke slot = some handler
  known : ∀ jobType slot, slots.handlerSlots.get jobType = some slot ->
    (registered.get jobType).isSome = true ∧ slot < slots.handlers.length
  distinct : ∀ first second slot, slots.handlerSlots.get first = some slot ->
    slots.handlerSlots.get second = some slot -> first = second
  once : registrations.Nodup
  registered : ∀ jobType ∈ registrations, (registered.get jobType).isSome = true
  /-- One trampoline for each installed type, to the slot of the type. -/
  calls : backend = registrations.reverse.map fun jobType =>
    (jobType, slots.handlerSlots.get jobType)

/-- Tables in which every registered type is installed. -/
def CaughtUp (registered : KeyedTable String Handler) (registrations : List String) : Prop :=
  ∀ jobType, (registered.get jobType).isSome = true -> jobType ∈ registrations

/-- What updating a slot does to the tables of slots. -/
theorem updateRuntimeHandlerSlot_get
    (slots : Slots) (jobType : String) (handler : Handler) (other : String) :
    (updateRuntimeHandlerSlot slots jobType (some handler)).1.handlerSlots.get other =
      if other = jobType then
        (updateRuntimeHandlerSlot slots jobType (some handler)).2
      else slots.handlerSlots.get other := by
  unfold updateRuntimeHandlerSlot
  dsimp only
  split
  · rename_i slot found
    split
    · rename_i same
      rw [same, found]
    · rfl
  · simp

section Update

variable {registered : KeyedTable String Handler} {jobType : String} {handler : Handler}

theorem mem_installRuntimeHandler :
    other ∈ (installRuntimeHandler backend registrations jobType (some handler) slot).2 ↔
      other = jobType ∨ other ∈ registrations := by
  unfold installRuntimeHandler
  dsimp only
  split
  · rename_i installed
    constructor
    · exact .inr
    · rintro (rfl | member)
      · exact installed
      · exact member
  · simp

variable (tables : Tables registered slots registrations backend)
include tables

/-- The slot of a registered handler after an update. -/
theorem updateRuntimeHandlerSlot_invoke :
    ∃ slot, (updateRuntimeHandlerSlot slots jobType (some handler)).2 = some slot ∧
      slot < (updateRuntimeHandlerSlot slots jobType (some handler)).1.handlers.length ∧
      (updateRuntimeHandlerSlot slots jobType (some handler)).1.invoke slot = some handler ∧
      (∀ other target, other ≠ jobType ->
        slots.handlerSlots.get other = some target -> target ≠ slot ∧
        target < (updateRuntimeHandlerSlot slots jobType (some handler)).1.handlers.length ∧
        (updateRuntimeHandlerSlot slots jobType (some handler)).1.invoke
          target = slots.invoke target) := by
  unfold updateRuntimeHandlerSlot
  dsimp only
  split
  · rename_i slot found
    have bounded := (tables.known jobType slot found).2
    refine ⟨slot, rfl, by simpa using bounded, ?_, ?_⟩
    · simp [Slots.invoke, bounded]
    · intro other target different present
      have apart : target ≠ slot := fun same =>
        different (tables.distinct other jobType target present (same ▸ found))
      refine ⟨apart, ?_, ?_⟩
      · simpa using (tables.known other target present).2
      · simp [Slots.invoke, List.getElem?_set_ne (Ne.symm apart)]
  · refine ⟨slots.handlers.length, rfl, by simp, by simp [Slots.invoke], ?_⟩
    intro other target different present
    have bounded := (tables.known other target present).2
    refine ⟨Nat.ne_of_lt bounded, ?_, ?_⟩
    · simp only [List.length_append, List.length_singleton]
      exact Nat.lt_succ_of_lt bounded
    · simp [Slots.invoke, List.getElem?_append_left bounded]

/-- Registering a handler and updating its slot keeps the tables. -/
theorem Tables.update (recorded : ∀ other, after.get other =
      if other = jobType then some handler else registered.get other) :
    Tables after (updateRuntimeHandlerSlot slots jobType (some handler)).1
      registrations backend := by
  obtain ⟨slot, updated, bounded, invoked, others⟩ :=
    @updateRuntimeHandlerSlot_invoke _ _ _ _ jobType handler tables
  have lookup (other : String) := updateRuntimeHandlerSlot_get slots jobType handler other
  refine ⟨?_, ?_, ?_, tables.once, ?_, ?_⟩
  · intro other found present
    rw [recorded] at present
    rw [lookup]
    by_cases same : other = jobType
    · rw [if_pos same] at present ⊢
      cases present
      exact ⟨slot, updated, invoked⟩
    · rw [if_neg same] at present ⊢
      obtain ⟨target, pointed, called⟩ := tables.slot other found present
      exact ⟨target, pointed, (others other target same pointed).2.2.trans called⟩
  · intro other target pointed
    rw [lookup] at pointed
    rw [recorded]
    by_cases same : other = jobType
    · rw [if_pos same] at pointed ⊢
      rw [updated] at pointed
      cases pointed
      exact ⟨rfl, bounded⟩
    · rw [if_neg same] at pointed ⊢
      exact ⟨(tables.known other target pointed).1, (others other target same pointed).2.1⟩
  · intro first second target firstPoints secondPoints
    rw [lookup] at firstPoints secondPoints
    by_cases isFirst : first = jobType <;> by_cases isSecond : second = jobType
    · exact isFirst.trans isSecond.symm
    · rw [if_pos isFirst, updated] at firstPoints
      rw [if_neg isSecond] at secondPoints
      cases firstPoints
      exact absurd rfl (others second slot isSecond secondPoints).1
    · rw [if_pos isSecond, updated] at secondPoints
      rw [if_neg isFirst] at firstPoints
      cases secondPoints
      exact absurd rfl (others first slot isFirst firstPoints).1
    · rw [if_neg isFirst] at firstPoints
      rw [if_neg isSecond] at secondPoints
      exact tables.distinct first second target firstPoints secondPoints
  · intro other installed
    rw [recorded]
    split
    · rfl
    · exact tables.registered other installed
  · rw [tables.calls]
    refine List.map_congr_left fun other installed => ?_
    rw [lookup]
    split
    · rename_i same
      -- An installed type keeps its slot.
      obtain ⟨found, present⟩ := Option.isSome_iff_exists.mp
        (tables.registered other (List.mem_reverse.mp installed))
      obtain ⟨target, pointed, _⟩ := tables.slot other found present
      rw [same] at pointed
      rw [same, pointed, updateRuntimeHandlerSlot]
      simp only [pointed]
    · rfl

/-- Installing a registered type keeps the tables. -/
theorem Tables.install (present : registered.get jobType = some handler) :
    Tables registered slots
      (installRuntimeHandler backend registrations jobType (some handler)
        (slots.handlerSlots.get jobType)).2
      (installRuntimeHandler backend registrations jobType (some handler)
        (slots.handlerSlots.get jobType)).1 := by
  unfold installRuntimeHandler
  dsimp only
  split
  · exact tables
  · rename_i missing
    exact
      { tables with
        once := List.nodup_cons.mpr ⟨missing, tables.once⟩
        registered := by
          rintro other (_ | ⟨_, member⟩)
          · simp [present]
          · exact tables.registered other member
        calls := by
          rw [tables.calls]
          simp }

/-- A backend calls the slot of an installed type. -/
theorem Tables.target (installed : jobType ∈ registrations) :
    Backend.target backend jobType = slots.handlerSlots.get jobType := by
  have found : ∀ types : List String, jobType ∈ types ->
      (types.map fun other => (other, slots.handlerSlots.get other)).find?
        (fun call => call.1 = jobType) = some (jobType, slots.handlerSlots.get jobType) := by
    intro types member
    induction types with
    | nil => cases member
    | cons first rest ih =>
      by_cases same : first = jobType
      · simp [same]
      · have later := (List.mem_cons.mp member).resolve_left (Ne.symm same)
        simpa [same] using ih later
  rw [Backend.target, tables.calls, ← List.map_reverse, List.reverse_reverse,
    found registrations installed]
  rfl

/-- An installed type was handed to the backend exactly once. -/
theorem Tables.count (installed : jobType ∈ registrations) :
    (backend.map Prod.fst).count jobType = 1 := by
  have types : backend.map Prod.fst = registrations.reverse := by
    rw [tables.calls, List.map_map]
    exact List.map_id _
  rw [types, List.count_reverse]
  exact List.count_eq_one_of_mem tables.once installed

end Update

/-! ## The book of a runtime -/

/-- What a runtime knows of its handlers and its worker. -/
structure Book where
  registered : KeyedTable String Handler
  slots : Slots
  registrations : List String
  worker : Option Worker
  started : Bool
  draining : Bool
  shutdown : Option Nat
  backends : Worker -> Backend
  nextWorker : Worker
  completed : List (String × Handler)

/-- The book of a runtime. -/
def World.book (world : World) : Book where
  registered := world.state.registered
  slots := world.state.slots
  registrations := world.state.registrations
  worker := world.state.worker
  started := world.state.started
  draining := world.state.draining
  shutdown := world.state.shutdown
  backends := world.backends
  nextWorker := world.nextWorker
  completed := world.completed

namespace Book

/-- What the current worker was handed. -/
def current (book : Book) : Backend :=
  match book.worker with
  | some worker => book.backends worker
  | none => []

/-- Every registered type is installed. -/
def Caught (book : Book) : Prop :=
  CaughtUp book.registered book.registrations

end Book

/-- The handler of the latest completed `Register` call for a job type. -/
def World.latest (world : World) (jobType : String) : Option Handler :=
  KeyedList.find jobType world.completed

/-- What holds of the book at every moment before any shutdown. -/
structure Booked (kind : Kind) (book : Book) : Prop where
  running : book.draining = false
  idle : book.shutdown = none
  recorded : ∀ jobType, book.registered.get jobType = KeyedList.find jobType book.completed
  tables : Tables book.registered book.slots book.registrations book.current
  built : ∀ worker, book.worker = some worker -> worker < book.nextWorker
  unbuilt : ∀ worker, book.nextWorker ≤ worker -> book.backends worker = []
  native : kind = .native -> book.worker = some nativeBackend

/-- What holds of the book between critical sections. -/
structure Kept (kind : Kind) (book : Book) : Prop extends Booked kind book where
  started : book.started = true -> book.worker.isSome = true ∧ book.Caught

/-- What a call knows of the book. -/
def Ready (book : Book) : Phase -> Prop
  | .obtaining worker => book.worker = worker
  | .obtained worker => book.worker = none ∧ book.backends worker = [] ∧ worker < book.nextWorker
  | .activating worker => book.worker = some worker ∧ book.Caught
  | _ => True

/-- A change that leaves alone what a start attempt knows. -/
structure Book.Spares (before after : Book) : Prop where
  worker : after.worker = before.worker
  backends : before.worker = none -> after.backends = before.backends
  nextWorker : after.nextWorker = before.nextWorker
  caught : before.worker.isSome = true -> before.Caught -> after.Caught

theorem Book.Spares.refl (book : Book) : book.Spares book :=
  ⟨rfl, fun _ => rfl, rfl, fun _ => id⟩

theorem Ready.of_spares
    (spares : before.Spares after) (ready : Ready before phase) : Ready after phase := by
  cases phase with
  | obtaining worker => exact spares.worker.trans ready
  | obtained worker =>
    obtain ⟨unheld, unequipped, built⟩ := ready
    exact ⟨spares.worker.trans unheld, (congrFun (spares.backends unheld) worker).trans unequipped,
      spares.nextWorker ▸ built⟩
  | activating worker =>
    exact ⟨spares.worker.trans ready.1, spares.caught (by rw [ready.1]; rfl) ready.2⟩
  | _ => trivial

/-! ## Sections -/

variable {before world : World}

/-- Recording a handler and updating its slot. -/
theorem Booked.record (booked : Booked kind before.book) (entry : String × Handler) :
    Booked kind ((before.recordHandler entry).updateSlot entry).2.book :=
  { booked with
    recorded := by
      intro jobType
      have recorded := booked.recorded jobType
      by_cases same : entry.1 = jobType
      · simp [World.book, World.updateSlot, World.recordHandler, KeyedList.find, same]
      · simpa [World.book, World.updateSlot, World.recordHandler,
          KeyedList.find, same, Ne.symm same] using recorded
    tables := booked.tables.update (KeyedTable.get_set _) }

/-- Updating the slot of a handler that is already recorded. -/
theorem Booked.updateSlot (booked : Booked kind before.book)
    (present : before.state.registered.get entry.1 = some entry.2) :
    Booked kind (before.updateSlot entry).2.book :=
  { booked with
    tables := booked.tables.update fun other => by
      split
      · rename_i same
        rw [same]
        exact present
      · rfl }

/-- The slot that an update returns is the one of the type. -/
theorem updateSlot_fst :
    (world.updateSlot entry).1 =
      (world.updateSlot entry).2.state.slots.handlerSlots.get entry.1 := by
  simp [World.updateSlot, updateRuntimeHandlerSlot_get]

/-- The types that are installed after one more was. -/
theorem mem_registrations_installOn :
    jobType ∈ (before.installOn worker entry slot).state.registrations ↔
      jobType = entry.1 ∨ jobType ∈ before.state.registrations :=
  mem_installRuntimeHandler

section Held

variable (booked : Booked kind before.book) (held : before.state.worker = some worker)
include booked held

theorem Booked.installOn (present : before.state.registered.get entry.1 = some entry.2) :
    Booked kind (before.installOn worker entry
      (before.state.slots.handlerSlots.get entry.1)).book where
  running := booked.running
  idle := booked.idle
  recorded := booked.recorded
  tables := by
    have tables := booked.tables
    have current : before.book.current = before.backends worker := by
      simp [Book.current, World.book, held]
    rw [current] at tables
    simpa [World.installOn, World.book, Book.current, held] using tables.install present
  built := booked.built
  unbuilt := by
    intro other fresh
    have earlier := booked.built worker held
    have different : other ≠ worker := fun same =>
      absurd (same ▸ earlier) (Nat.not_lt.mpr fresh)
    simpa [World.installOn, World.book, different] using booked.unbuilt other fresh
  native := booked.native

/-- One round of the loops that install the registered handlers. -/
theorem Booked.install (present : before.state.registered.get entry.1 = some entry.2) :
    Booked kind (before.install worker entry).book := by
  unfold World.install
  dsimp only
  rw [updateSlot_fst]
  exact (booked.updateSlot present).installOn held present

/-- The loops that install the registered handlers. -/
theorem Booked.catchUp
    (listed : ∀ entry ∈ order, before.state.registered.get entry.1 = some entry.2) :
    Booked kind (before.catchUp worker order).book ∧
      (before.catchUp worker order).state.registered = before.state.registered ∧
      (before.catchUp worker order).state.worker = some worker ∧
      (before.catchUp worker order).state.started = before.state.started ∧ ∀ jobType,
      jobType ∈ order.map Prod.fst ∨ jobType ∈ before.state.registrations ->
      jobType ∈ (before.catchUp worker order).state.registrations := by
  induction order generalizing before with
  | nil => exact ⟨booked, rfl, held, rfl, by simp [World.catchUp]⟩
  | cons entry rest ih =>
    have round := booked.install held (listed entry List.mem_cons_self)
    obtain ⟨kept, registered, stillHeld, started, installed⟩ :=
      ih round held fun other member =>
        listed other (List.mem_cons_of_mem _ member)
    refine ⟨kept, registered, stillHeld, started, ?_⟩
    intro jobType member
    apply installed
    have added : jobType ∈ (before.install worker entry).state.registrations ↔
        jobType = entry.1 ∨ jobType ∈ before.state.registrations :=
      mem_registrations_installOn
    rw [added]
    simp only [List.map_cons, List.mem_cons] at member
    tauto

/-- After such a loop every registered type is installed. -/
theorem caught_catchUp (permuted : order.Perm before.state.registered.entries) :
    Booked kind (before.catchUp worker order).book ∧
      (before.catchUp worker order).book.worker = some worker ∧
      (before.catchUp worker order).book.started = before.state.started ∧
      (before.catchUp worker order).book.Caught := by
  obtain ⟨kept, registered, held, started, installed⟩ :=
    booked.catchUp held fun entry member =>
      (KeyedTable.mem_iff_get _ permuted entry.1 entry.2).mp member
  refine ⟨kept, held, started, ?_⟩
  intro jobType present
  obtain ⟨handler, found⟩ := Option.isSome_iff_exists.mp present
  have found : before.state.registered.get jobType = some handler := registered ▸ found
  have member := (KeyedTable.mem_iff_get _ permuted jobType handler).mpr found
  exact installed jobType (.inl (List.mem_map.mpr ⟨_, member, rfl⟩))

end Held

/-- `Register` keeps the book, and installs the type if a start is in
progress. -/
theorem Kept.register (kept : Kept kind before.book) (jobType : String) :
    Kept kind (before.register jobType handler).book ∧
      (before.state.start.isSome = true ->
        before.book.Spares (before.register jobType handler).book) := by
  have record := kept.toBooked.record (jobType, handler)
  have running : before.state.draining = false := kept.running
  have grows (other : String) (present : ((before.state.registered.set jobType handler).get
        other).isSome = true) :
      other = jobType ∨ (before.state.registered.get other).isSome = true := by
    rw [KeyedTable.get_set] at present
    split at present
    · exact .inl ‹_›
    · exact .inr present
  unfold World.register
  dsimp only
  split
  · rename_i worker held
    split
    · let call := (jobType, handler)
      have present : ((before.recordHandler call).updateSlot call).2.state.registered.get call.1 =
          some call.2 := by
        simp [call, World.updateSlot, World.recordHandler]
      rw [updateSlot_fst]
      have installed := record.installOn held present
      -- Installing the one type that is new catches up.
      suffices caught : before.book.Caught -> Book.Caught _ from
        ⟨{ installed with
            started := fun started =>
              ⟨(kept.started started).1, caught (kept.started started).2⟩ },
          fun _ => ⟨rfl, fun unheld =>
              absurd (held.symm.trans unheld) (by simp), rfl,
            fun _ => caught⟩⟩
      exact fun known other found => mem_registrations_installOn.mpr
        ((grows other found).imp_right (known other))
    · rename_i inactive
      simp only [running, Bool.not_false, Bool.true_and, Bool.or_eq_true, not_or] at inactive
      exact ⟨{ record with started := fun started => absurd started inactive.2 },
        fun starting => absurd starting inactive.1⟩
  · rename_i unheld
    refine ⟨{ record with started := fun started => ?_ }, fun _ =>
      ⟨rfl, fun _ => rfl, rfl, fun held => ?_⟩⟩
    · have held := (kept.started started).1
      rw [show before.book.worker = none from unheld] at held
      cases held
    · rw [show before.book.worker = none from unheld] at held
      cases held

/-! ## Every run -/

/-- What one operation must show. -/
structure Recorded (kind : Kind) (label : Nat) (next : Phase) (before after : World) : Prop where
  kept : Kept kind after.book
  ready : Ready after.book next
  spares : ∀ other, other ≠ label -> before.state.start = some other ->
    before.book.Spares after.book

/-- An operation that leaves the book as it is. -/
theorem Recorded.unchanged (kept : Kept kind before.book) (ready : Ready before.book next)
    (same : world.book = before.book) :
    Recorded kind label next before world where
  kept := same ▸ kept
  ready := same ▸ ready
  spares := fun _ _ _ => same ▸ .refl before.book

/-- An operation of the call that starts. -/
theorem Recorded.of_start (kept : Kept kind world.book) (ready : Ready world.book next)
    (starting : before.state.start = some label) :
    Recorded kind label next before world where
  kept := kept
  ready := ready
  spares := by
    intro other different same
    exact absurd (Option.some.inj (same.symm.trans starting)) different

theorem recorded_acquireOperation (kept : Kept kind before.book) (ready : Ready before.book next)
    (executed : exec label before (.acquireOperation ctx allowContinuation)
      choice = some (some refused, world)) :
    Recorded kind label next before world := by
  refine .unchanged kept ready ?_
  simp only [exec] at executed
  cases decision : before.refuses ctx allowContinuation with
  | true =>
    rw [World.acquireOperation_refused before label decision,
      World.continuationScopeLocked_eq] at executed
    cases executed
    rfl
  | false =>
    rw [World.acquireOperation_admitted before label decision,
      World.continuationScopeLocked_eq] at executed
    cases executed
    rfl

theorem recorded_beganNative (kept : Kept .native before.book)
    (executed : exec label before (.enterStart .native) choice =
      some (some (.began worker workers), world)) :
    Recorded .native label (.activating nativeBackend) before world := by
  rcases of_enterStart executed with ⟨_, other⟩ | ⟨_, _, _, unstarted, free, after⟩
  · exact absurd rfl (other _ _)
  rcases after with ⟨_, order, permuted, rfl⟩ | ⟨external, _⟩
  · have held : before.state.worker = some nativeBackend := kept.native rfl
    have entered : Booked .native (World.book
        { before with
          state := { before.state with start := some label }
          starting := label :: before.starting }) := kept.toBooked
    obtain ⟨booked, stillHeld, started, caught⟩ := caught_catchUp entered held permuted
    refine ⟨{ booked with started := fun _ => ⟨?_, caught⟩ }, ⟨stillHeld, caught⟩, ?_⟩
    · rw [stillHeld]
      rfl
    · intro other _ starting
      exact absurd (free.symm.trans starting) (by simp)
  · cases external

theorem recorded_beganExternal (kept : Kept .external before.book)
    (executed : exec label before (.enterStart .external) choice =
      some (some (.began worker workers), world)) :
    Recorded .external label (.obtaining worker) before world := by
  rcases of_enterStart executed with ⟨_, other⟩ | ⟨began, _, _, _, _, after⟩
  · exact absurd rfl (other _ _)
  rcases after with ⟨native, _⟩ | ⟨_, rfl⟩
  · cases native
  · cases began
    have ready : Ready before.book (.obtaining before.state.worker) := rfl
    exact .unchanged kept ready rfl

theorem recorded_newWorker (kept : Kept kind before.book) (unheld : before.state.worker = none)
    (starting : before.state.start = some label)
    (executed : exec label before (.newWorker workers) choice = some (some made, world)) :
    Recorded kind label (match made with
        | .ok worker => .obtained worker
        | .error _ => .obtaining none) before world := by
  rcases of_newWorker executed with ⟨err, rfl, rfl⟩ | ⟨rfl, rfl⟩
  · exact .unchanged kept unheld rfl
  · have fresh : before.backends before.nextWorker = [] :=
      kept.unbuilt before.nextWorker (Nat.le_refl _)
    refine .of_start { kept with
        built := fun worker held => Nat.lt_succ_of_lt (kept.built worker held)
        unbuilt := fun worker later =>
          kept.unbuilt worker (Nat.le_of_succ_le later) }
      ⟨unheld, fresh, Nat.lt_succ_self _⟩ starting

theorem recorded_publishWorker (kept : Kept .external before.book)
    (starting : before.state.start = some label)
    (held : before.state.worker = some worker ∨
      before.state.worker = none ∧ before.backends worker = [] ∧ worker < before.nextWorker)
    (executed : exec label before (.publishWorker worker) choice = some (some (), world)) :
    Recorded .external label (.activating worker) before world := by
  obtain ⟨order, permuted, rfl⟩ := of_publishWorker executed
  have published : Booked .external (World.book
      { before with state := { before.state with worker := some worker } }) :=
    { kept.toBooked with
      tables := by
        have tables := kept.tables
        rcases held with same | ⟨unheld, fresh, _⟩
        · simpa [World.book, Book.current, same] using tables
        · simpa [World.book, Book.current, unheld, fresh] using tables
      built := by
        intro other same
        cases same
        rcases held with same | ⟨_, _, built⟩
        · exact kept.built worker same
        · exact built
      native := by simp }
  obtain ⟨booked, stillHeld, _, caught⟩ := caught_catchUp published rfl permuted
  refine .of_start { booked with started := fun _ => ⟨?_, caught⟩ } ⟨stillHeld, caught⟩ starting
  rw [show (before.publishWorker worker order).book.worker = some worker from stillHeld]
  rfl

theorem recorded_leaveStart {set : Option Worker} (kept : Kept kind before.book)
    (starting : before.state.start = some label) (held : set = none ∨ set = before.state.worker)
    (caught : err = none -> before.state.worker.isSome = true ∧ before.book.Caught) :
    Recorded kind label .finished before (before.leaveStart label set err) := by
  have same : set.or before.state.worker = before.state.worker := by
    rcases held with rfl | rfl
    · rfl
    · exact Option.or_self
  have book : (before.leaveStart label set err).book =
      { before.book with started := err.isNone || before.state.started } := by
    simp only [World.leaveStart, World.book, same]
  refine .of_start ?_ trivial starting
  rw [book]
  refine { kept with started := fun started => ?_ }
  cases err with
  | none => exact caught rfl
  | some err => exact kept.started started

/-- What a call asks for keeps the book, as long as no shutdown begins. -/
theorem recorded_of_move {answer : operation.Answer} (owned : Owned label phase before.gate)
    (kept : Kept kind before.book) (ready : Ready before.book phase)
    (moved : CallMoves kind phase operation answer next)
    (executed : exec label before operation choice = some (some answer, world))
    (allowed : operation ≠ .enterShutdown) :
    Recorded kind label next before world := by
  have unshut (stage : Stage) : phase ≠ .shutting stage := by
    rintro rfl
    have shutting : before.book.shutdown = some label := owned.shutdown.mpr rfl
    rw [kept.idle] at shutting
    cases shutting
  cases moved with
  | refused | admitted => exact recorded_acquireOperation kept trivial executed
  | operate | startReturned =>
    have same := of_answer executed
    rw [ite_self] at same
    subst same
    exact .unchanged kept ready rfl
  | release =>
    cases executed
    exact .unchanged kept trivial rfl
  | register jobType handler =>
    cases executed
    obtain ⟨after, spares⟩ := kept.register jobType
    exact ⟨after, trivial, fun other _ starting =>
      spares (by rw [starting]; rfl)⟩
  | setWorkers count =>
    cases executed
    refine .unchanged kept trivial ?_
    unfold World.setWorkers
    split <;> rfl
  | passed other =>
    rcases of_enterStart executed with ⟨rfl, _⟩ | ⟨began, _⟩
    · exact .unchanged kept trivial rfl
    · exact absurd began (other _ _)
  | beganNative native =>
    subst native
    exact recorded_beganNative kept executed
  | beganExternal external =>
    subst external
    exact recorded_beganExternal kept executed
  | constructed | unconstructed =>
    exact recorded_newWorker kept ready (owned.start.mpr rfl) executed
  | published external worker =>
    subst external
    exact recorded_publishWorker kept (owned.start.mpr rfl) (.inl ready) executed
  | publishedNew external worker =>
    subst external
    exact recorded_publishWorker kept (owned.start.mpr rfl) (.inr ready) executed
  | startWorkers worker =>
    cases executed
    exact .unchanged kept ready rfl
  | abandonStart err =>
    cases executed
    exact recorded_leaveStart kept (owned.start.mpr rfl) (.inl rfl) fun nil => by cases nil
  | leaveStart worker same err =>
    cases executed
    have held : before.state.worker = some worker := ready.1
    exact recorded_leaveStart kept (owned.start.mpr rfl)
      (same.imp_right fun set => set.trans held.symm) fun _ => ⟨by rw [held]; rfl, ready.2⟩
  | joinedStart | joinedShutdown | gaveUp | startCompleted =>
    obtain ⟨rfl, _⟩ := of_receive executed
    exact .unchanged kept trivial rfl
  | awaits | awaitsAgain | joinsShutdown | closedAlready | beganShutdown => exact absurd rfl allowed
  | absurd => exact absurd rfl owned.possible
  | _ => exact absurd rfl (unshut _)

/-- What the runtime has recorded, over what each call owns. -/
def recording (kind : Kind) : Assertions World Phase where
  shared := fun _ world => Kept kind world.book
  thread := fun _ phase world => Ready world.book phase

theorem book_of_external (label : Nat)
    (moved : external kind label before move = some (world, started)) :
    world.book = before.book := by
  cases move with
  | deliver worker jobType =>
    obtain ⟨_, _, same⟩ := Option.map_eq_some_iff.mp moved
    cases same
    rfl
  | _ =>
    cases moved
    rfl

/-- What a call knows survives a step of another call. -/
theorem Recorded.frame (recorded : Recorded kind label next before world)
    (different : other ≠ label) (owned : Owned other phase before.gate)
    (ready : Ready before.book phase) : Ready world.book phase := by
  cases role : phase.role with
  | start => exact ready.of_spares (recorded.spares other different (owned.start.mpr role))
  | nothing | lease | shutdown =>
    cases phase with
    | obtaining | obtained | activating => cases role
    | _ => trivial

theorem recording_kept :
    ownership.KeptOver (recording kind) (machine kind) noShutdown (callProtocol kind) where
  operation := by
    intro bound label phase next before world operation answer choice _
      shared thread moved executed allowed
    have recorded := recorded_of_move thread.1 shared.2 thread.2 moved executed allowed
    exact ⟨recorded.kept, recorded.ready, fun other phase _ different owned ready =>
        recorded.frame different owned ready⟩
  blocked := fun _ _ executed => absurd executed never_blocked
  finished := by
    intro bound label phase before world result _ shared _ _ settled
    cases settled
    exact ⟨shared.2, fun _ _ _ _ _ ready => ready⟩
  idle := by
    intro bound before world move shared moved _
    have same := book_of_external bound moved
    simp only [recording, Assertions.FrameOver, same]
    exact ⟨shared.2, fun _ _ _ _ _ ready => ready⟩
  started := by
    rintro bound before world move program _ shared moved _ rfl
    have same := book_of_external bound moved
    simp only [recording, Assertions.FrameOver, same]
    exact ⟨shared.2, trivial, fun _ _ _ _ _ ready => ready⟩

theorem recording_initial :
    (ownership.and (recording kind)).Hold (callProtocol kind) (initial kind workers) := by
  refine Assertions.Hold.initial ⟨ordered_new, ?_⟩
  have tables : Tables .empty {} [] [] := ⟨by simp, by simp, by simp, List.nodup_nil, by simp, rfl⟩
  cases kind with
  | native =>
    exact
      { running := rfl
        idle := rfl
        recorded := fun _ => rfl
        tables := tables
        built := by simp [World.new, World.book, nativeBackend]
        unbuilt := fun _ _ => rfl
        native := fun _ => rfl
        started := by simp [World.new, World.book] }
  | external =>
    exact
      { running := rfl
        idle := rfl
        recorded := fun _ => rfl
        tables := tables
        built := by simp [World.new, World.book]
        unbuilt := fun _ _ => rfl
        native := by simp
        started := by simp [World.new, World.book] }

/-! ## The theorem -/

/-- Each job type whose `Register` has completed is installed on the backend
exactly once, and its deliveries invoke the latest handler. -/
def InstalledOn (world : World) (worker : Worker) : Prop :=
  ∀ jobType handler, world.latest jobType = some handler ->
    ((world.backends worker).map Prod.fst).count jobType = 1 ∧
    world.invokes worker jobType = some handler

/-- A caught up book has every registration installed on its worker. -/
theorem installedOn_of_caught
    (kept : Kept kind world.book) (held : world.state.worker = some worker)
    (caught : world.book.Caught) : InstalledOn world worker := by
  intro jobType handler latest
  have present : world.state.registered.get jobType = some handler :=
    (kept.recorded jobType).trans latest
  have installed : jobType ∈ world.state.registrations :=
    caught jobType (by rw [World.book, present]; rfl)
  have tables := kept.tables
  have current : world.book.current = world.backends worker := by
    simp [Book.current, World.book, held]
  rw [current] at tables
  refine ⟨tables.count installed, ?_⟩
  obtain ⟨slot, pointed, invoked⟩ := tables.slot jobType handler present
  rw [World.invokes, tables.target installed, pointed]
  exact invoked

/-- The call is about to invoke the `StartWorkers` of a backend, or waits for it
to return. -/
def ActivatesWorker (config : Configuration) (label : Nat) (worker : Worker) : Prop :=
  (∃ next, KeyedList.find label config.threads = some (.call (.startWorkers worker) next)) ∨
  ∃ next, KeyedList.find label config.threads = some (.call (.startReturned worker) next)

theorem activating_of_activatesWorker
    (hold : (ownership.and (recording kind)).Hold (callProtocol kind) config)
    (activates : ActivatesWorker config label worker) :
    Ready config.world.book (.activating worker) := by
  rcases activates with ⟨next, running⟩ | ⟨next, running⟩
  all_goals
    obtain ⟨_, phase, follows, owned, ready⟩ := hold.thread _ _ running
  · obtain ⟨after, moved, _⟩ := follows ()
    cases moved with
    | startWorkers => exact ready
    | absurd => exact absurd rfl owned.possible
  · obtain ⟨after, moved, _⟩ := follows none
    cases moved with
    | startReturned => exact ready
    | absurd => exact absurd rfl owned.possible

/-- Before any shutdown begins, each registered job type is installed on the
current worker exactly once, with its latest handler: when the worker is
activated, while it is being activated and while the runtime is started. -/
theorem registrations_are_not_lost (kind : Kind) (workers : Int) {config : Configuration}
    (reached : (machine kind).Reaches noShutdown (initial kind workers) config) :
    (∀ label worker, ActivatesWorker config label worker ->
      config.world.state.worker = some worker ∧ InstalledOn config.world worker) ∧
    (config.world.state.started = true -> ∃ worker, config.world.state.worker = some worker ∧
        InstalledOn config.world worker) := by
  have hold := recording_initial.reaches callProtocol_governs
    (ownership_kept.restrict.over recording_kept) reached
  have kept : Kept kind config.world.book := hold.shared.2
  constructor
  · intro label worker activates
    obtain ⟨held, caught⟩ := activating_of_activatesWorker hold activates
    exact ⟨held, installedOn_of_caught kept held caught⟩
  · intro started
    obtain ⟨some_held, caught⟩ := kept.started started
    obtain ⟨worker, held⟩ := Option.isSome_iff_exists.mp some_held
    exact ⟨worker, held, installedOn_of_caught kept held caught⟩

/-- A worker cannot be constructed, its first start fails, handlers are
registered and replaced around the second start. -/
def retriedStart : List (Action Choice Move) :=
  [.external (.register "job" (some ⟨1⟩)), .run 0 .go, .external .startWorkers, .run 1 .go,
    .run 1 (.fail (.text "down")), .run 1 .go, .external .startWorkers, .run 2 .go, .run 2 .go,
    .run 2 (.order [("job", ⟨1⟩)]), .run 2 .go, .run 2 (.fail (.text "down")), .run 2 .go,
    .external (.register "mail" (some ⟨2⟩)), .run 3 .go, .external .startWorkers, .run 4 .go,
    .external (.register "job" (some ⟨3⟩)), .run 5 .go,
    .run 4 (.order [("mail", ⟨2⟩), ("job", ⟨3⟩)]), .external (.register "report" (some ⟨4⟩)),
    .run 6 .go, .run 4 .go, .run 4 .go, .run 4 .go]

theorem registrations_are_not_lost_retriedStart :
    ∃ config : Configuration, (machine .external).Reaches noShutdown (initial .external 0) config ∧
      config.world.latest "job" = some ⟨3⟩ ∧ config.world.latest "report" = some ⟨4⟩ ∧
      config.world.state.started = true ∧ ∃ worker, config.world.state.worker = some worker ∧
      InstalledOn config.world worker := by
  obtain ⟨config, reached, job, report, started⟩ :
      ∃ config, (machine .external).Reaches noShutdown (initial .external 0) config ∧
        config.world.latest "job" = some ⟨3⟩ ∧ config.world.latest "report" = some ⟨4⟩ ∧
        config.world.state.started = true :=
    Machine.Reaches.of_decide retriedStart (by decide +kernel)
  exact ⟨config, reached, job, report, started,
    (registrations_are_not_lost .external 0 reached).2 started⟩

end JobQueue.Lifecycle
