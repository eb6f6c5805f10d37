import AdventureVm.Kernel.Table
import AdventureVm.Proofs.Memory.Genuine
import AdventureVm.Proofs.Memory.Twins

/-!
What was recorded before makes no difference to work on memory, and no request to stop ends it.

Such work is called steady. All that the machine does to memory is, the kernel functions that it
brings along included.
-/

namespace AdventureVm

namespace StoreM

variable {α β : Type} {fits : α → Prop} {fitsToo : β → Prop}

/-- Two memories with the same contents, whatever was recorded about either. -/
def SameHeap (first second : Store) : Prop :=
  second.heap = first.heap

/-- Steady work whose values have a property. -/
structure SteadyWith (fits : α → Prop) (work : StoreM α) : Prop where
  /-- What was recorded before makes no difference. -/
  alike : ∀ {first second : Store}, SameHeap first second →
    RunsAlike SameHeap work.run first second
  /-- The values have the property, and a failure is no request to stop. -/
  genuine : ∀ store, Leads work store
    (Either (fun value _ => fits value) fun fault _ => fault.IsGenuine)

/-- Steady work, whatever its values are. -/
abbrev Steady (work : StoreM α) : Prop :=
  SteadyWith (fun _ => True) work

section Rules

/-- Giving a value is steady. -/
theorem steadyWith_pure {value : α} (holds : fits value) : SteadyWith fits (pure value) :=
  ⟨fun same => ⟨rfl, same⟩, fun _ => holds⟩

/-- Giving a value is steady. -/
theorem steady_pure (value : α) : Steady (pure value) :=
  steadyWith_pure trivial

/-- Failing is steady. -/
theorem steady_throw {fault : Fault} (genuine : fault.IsGenuine) :
    Steady (throw fault : StoreM α) :=
  ⟨fun same => ⟨rfl, same⟩, fun _ => genuine⟩

/-- Steady work goes on with values that have the property. -/
theorem SteadyWith.bind {work : StoreM α} {next : α → StoreM β} (here : SteadyWith fits work)
    (further : ∀ value, fits value → SteadyWith fitsToo (next value)) :
    SteadyWith fitsToo (work >>= next) where
  alike {first second} same := by
    apply (here.alike same).andThen
    intro value after afterToo ran sameToo
    -- The value that the first piece gives has its property in both memories.
    have holds := here.genuine first
    rw [Leads, ran] at holds
    exact (further value holds).alike sameToo
  genuine store := by
    rw [leads_bind]
    apply (here.genuine store).either
    · exact fun value between holds => (further value holds).genuine between
    · exact fun _ _ genuine => genuine

/-- Reading from memory is steady. -/
theorem steady_read (query : Heap → α) : Steady (read query) :=
  ⟨fun same => ⟨congrArg (fun heap => Except.ok (query heap)) same, same⟩, fun _ => trivial⟩

/-- Reading from memory what may not be there is steady. -/
theorem steady_require {query : Heap → Except Fault α} (genuine : ∀ heap, Genuine (query heap)) :
    Steady (require query) where
  -- The query gives the same for both, and its faults are genuine by assumption.
  alike {first second} same := by
    refine .of_runs (run_require query first) ?_ same
    rw [← show second.heap = first.heap from same]
    exact run_require query second
  genuine store := by
    rw [leads_require]
    exact (genuine store.heap).either store

/-- Adding records is steady. -/
theorem steady_record (records : List Record) : Steady (record records) :=
  ⟨fun same => ⟨rfl, same⟩, fun _ => trivial⟩

/-- Adding a record is steady. -/
theorem steady_note (level : Level) (text : String) : Steady (note level text) :=
  ⟨fun same => ⟨rfl, same⟩, fun _ => trivial⟩

/-- A search that is recorded is steady. -/
theorem steady_noted {query : Heap → Except Fault (α × List Record)}
    (genuine : ∀ heap, Genuine (query heap)) : Steady (noted query) :=
  (steady_require genuine).bind fun found _ => (steady_record found.2).bind fun _ _ =>
    steady_pure found.1

/-- Changing memory is steady. -/
theorem steady_change (step : Heap → Heap) : Steady (change step) :=
  ⟨fun same => ⟨rfl, congrArg step same⟩, fun _ => trivial⟩

/-- Changing memory or failing is steady. -/
theorem steady_attempt {step : Heap → Except Fault Heap} (genuine : ∀ heap, Genuine (step heap)) :
    Steady (attempt step) where
  alike {first second} same := by
    have ran (store : Store) {result : Except Fault Heap} (stepped : step store.heap = result) :
        (attempt step).run store =
          (result.map fun _ => (), store.mapHeap fun heap => result.toOption.getD heap) := by
      refine (leads_attempt step store fun outcome after => (outcome, after) = _).mpr ?_
      rw [stepped]
      cases result <;> rfl
    -- The step is given the same memory in both.
    have equal : step second.heap = step first.heap := congrArg step same
    refine .of_runs (ran first rfl) (ran second equal) ?_
    exact congrArg (step first.heap).toOption.getD same
  genuine store := by
    have given := genuine store.heap
    rw [leads_attempt]
    split
    · trivial
    · rename_i fault refused
      rw [refused] at given
      exact given

/-- Work whose failure is answered is steady, and the failure it answers is no request to stop. -/
theorem SteadyWith.outcome {work : StoreM α} (here : SteadyWith fits work) :
    SteadyWith (Results fits Fault.IsGenuine) (outcome work) where
  alike same := (here.alike same).outcome
  genuine store := by
    rw [leads_outcome]
    exact (here.genuine store).either (fun _ _ holds => holds) fun _ _ genuine => genuine

/-- Going through a list is steady when each step is. -/
theorem steady_forM {each : α → StoreM Unit} (steady : ∀ item, Steady (each item))
    (items : List α) : Steady (items.forM each) := by
  -- Induction on the items.
  induction items with
  | nil => exact steady_pure ()
  | cons item rest ih => exact (steady item).bind fun _ _ => ih

/-- Going through a row is steady when each step is. -/
theorem steady_foldlM {each : β → α → StoreM β} (steady : ∀ state item, Steady (each state item))
    (items : Array α) (state : β) : Steady (items.foldlM each state) := by
  -- A row is gone through like the list of its members.
  rw [← Array.foldlM_toList]
  induction items.toList generalizing state with
  | nil => exact steady_pure state
  | cons item rest ih => exact (steady state item).bind fun state _ => ih state

end Rules

/-- Loading a script with its records is steady. -/
theorem steady_load (version : Version) (number : UInt16) (segment : SegmentId) (bytes : Bytes)
    (heap : Option Bytes) : Steady (ofLogged (Script.load version number segment bytes heap)) where
  alike {first second} same := by
    have ran (store : Store) :
        (ofLogged (Script.load version number segment bytes heap)).run store =
        (((Script.load version number segment bytes heap).run store.journal).1,
          { store with
            journal := ((Script.load version number segment bytes heap).run store.journal).2 }) :=
      (leads_ofLogged _ store fun outcome after => (outcome, after) = _).mpr rfl
    -- Both journals go on with the records of the load.
    have unswayed : RunsAlike (Journal.Continue first.journal second.journal)
        (Script.load version number segment bytes heap).run first.journal second.journal :=
      Script.load_runsAlike version number segment bytes heap ⟨#[], by simp, by simp⟩
    have sameToo : SameHeap
        { first with
          journal := ((Script.load version number segment bytes heap).run first.journal).2 }
        { second with
          journal := ((Script.load version number segment bytes heap).run second.journal).2 } :=
      same
    refine .of_runs (ran first) ((ran second).trans ?_) sameToo
    exact congrArg (·, _) unswayed.1
  genuine store := by
    have loaded := Script.load_genuine version number segment bytes heap store.journal
    rw [leads_ofLogged]
    rw [Leads] at loaded
    generalize ((Script.load version number segment bytes heap).run store.journal).1 = result
      at loaded ⊢
    -- A failure of the loader is one of its own.
    cases result with
    | ok made => trivial
    | error fault => exact loaded

end StoreM

namespace Store

open StoreM

section Residency

/-- Taking a segment out of memory comes to the same, whatever was recorded before. -/
theorem deallocate_sameHeap (first second : Store) (id : SegmentId)
    (same : SameHeap first second) :
    (second.deallocate id).1 = (first.deallocate id).1 ∧
      SameHeap (first.deallocate id).2 (second.deallocate id).2 := by
  -- Both have the same in the place, so both take the same branch.
  have alike : second.heap = first.heap := same
  cases found : first.heap.get? id with
  | none =>
    rw [deallocate_none found, deallocate_none (alike ▸ found)]
    exact ⟨rfl, same⟩
  | some segment =>
    rw [deallocate_occupied found, deallocate_occupied (alike ▸ found)]
    cases segment with
    | script script =>
      simp only
      split
      · simp only [SameHeap, heap_mapHeap, heap_note, alike, and_self]
      · -- The variables are taken out of two memories that are still the same.
        have vacated (text : String) : SameHeap ((first.mapHeap (·.put id none)).note .debug text)
            ((second.mapHeap (·.put id none)).note .debug text) := by
          simp only [SameHeap, heap_mapHeap, heap_note, alike]
        obtain ⟨ended, left⟩ := deallocate_sameHeap _ _ script.localsSegment (vacated _)
        generalize Store.deallocate _ script.localsSegment = endedToo at ended left ⊢
        generalize Store.deallocate _ script.localsSegment = endedFirst at ended left ⊢
        obtain ⟨outcome, after⟩ := endedFirst
        obtain ⟨outcomeToo, afterToo⟩ := endedToo
        obtain rfl : outcomeToo = outcome := ended
        obtain left : afterToo.heap = after.heap := left
        cases outcomeToo with
        | ok value => simp only [SameHeap, heap_mapHeap, left, and_self]
        | error fault => exact ⟨rfl, left⟩
    -- Any other segment goes in one step, be it a pool or not.
    | _ =>
      simp only
      split
      · simp only [SameHeap, heap_mapHeap, heap_note, alike, and_self]
      · simp only [SameHeap, heap_mapHeap, heap_note, alike, and_self]
termination_by first.heap.liveCount
decreasing_by exact Heap.liveCount_put_none found

/-- Taking a segment out of memory fails only when there is none. -/
theorem deallocate_genuine (store : Store) (id : SegmentId) :
    Genuine (store.deallocate id).1 := by
  -- Only a missing segment is a fault; taking out the variables hands its own on.
  fun_induction deallocate store id with
  | case1 store id absent => exact Fault.isGenuine_iff.mpr (by simp)
  | case4 store id script occupied emptied own fault after present failed ih =>
    rw [failed] at ih
    exact ih
  | _ => trivial

/-- Taking a segment out of memory is steady. -/
theorem free_steady (id : SegmentId) : (free id).Steady :=
  ⟨fun {first second} => deallocate_sameHeap first second id,
    fun store => (deallocate_genuine store id).either _⟩

/-- Dropping locks comes to the same, whatever was recorded before. -/
theorem release_sameHeap (first : Store) (numbers : List UInt16) (second : Store)
    (same : second.heap = first.heap) :
    (second.release numbers).heap = (first.release numbers).heap := by
  -- The second memory takes the same branches, because it has the same scripts.
  fun_induction release first numbers generalizing second with
  | case1 store =>
    rw [release]
    exact same
  | case2 store number rest absent ih =>
    rw [release, same, absent]
    exact ih _ same
  | case3 store number rest id placed script found idle ih =>
    rw [release_resident (same ▸ placed) (same ▸ found), if_pos idle]
    exact ih _ same
  | case4 store number rest id placed script found busy changed last noted holds ih =>
    rw [release_resident (same ▸ placed) (same ▸ found), if_neg busy]
    simp only [last, holds, if_true, same]
    exact ih _ (by simp [noted, changed, same])
  | case5 store number rest id placed script found busy changed last noted free ih =>
    rw [release_resident (same ▸ placed) (same ▸ found), if_neg busy]
    simp only [last, free, if_true]
    exact ih _ (by simp [noted, changed, same])
  | case6 store number rest id placed script found busy changed more ih =>
    rw [release_resident (same ▸ placed) (same ▸ found), if_neg busy]
    simp only [more, if_false]
    exact ih _ (by simp [changed, same])
  | case7 store number rest id placed elsewhere ih =>
    rw [release]
    simp only [same, placed]
    split
    · rename_i script found
      exact absurd (same ▸ found) (elsewhere script)
    · exact ih _ same

/-- Dropping a lock is steady. -/
theorem uninstantiateScript_steady (number : UInt16) : (uninstantiateScript number).Steady :=
  ⟨fun {first second} same => ⟨rfl, release_sameHeap first [number] second same⟩, fun _ => trivial⟩

/-- Putting in a segment is steady. -/
theorem insert_steady (segment : Segment) : (insert segment).Steady := by
  -- A full memory is a genuine fault.
  refine (steady_read _).bind fun next _ => ?_
  cases next with
  | none => exact steady_throw (by simp)
  | some id =>
    exact (steady_note _ _).bind fun _ _ => (steady_change _).bind fun _ _ => steady_pure id

/-- Reading a script from its resources is steady. -/
theorem fillScript_steady (id : SegmentId) (number : UInt16) (bytes : Bytes)
    (heap : Option Bytes) : (fillScript id number bytes heap).Steady := by
  -- Version, script and variables come one after the other.
  have supplies (script : Script) (locals : Array Address) :
      (withLocals script locals).Steady := by
    unfold withLocals
    split
    · exact steady_pure _
    · exact (insert_steady _).bind fun _ _ => steady_pure _
  exact (steady_read _).bind fun _ _ => (steady_load ..).bind fun loaded _ => supplies _ loaded.2

/-- Loading a script is steady. -/
theorem loadScript_steady (resources : Resources) (number : UInt16) :
    (loadScript resources number).Steady := by
  refine (steady_read _).bind fun resident _ => ?_
  cases resident with
  | some id => exact steady_pure id
  | none =>
    simp only
    cases resources.script? number with
    | none => exact steady_throw (by simp)
    | some bytes =>
      -- A resource that is missing is a failure of its own.
      have heaps (version : Version) : Genuine (heapResource version resources number) := by
        unfold heapResource
        split
        · trivial
        · split
          · trivial
          · exact fun _ => nofun
      refine (steady_read _).bind fun version _ => (steady_require fun _ => heaps version).bind
        fun heap _ => (insert_steady _).bind fun id _ => ?_
      -- A failure to read the script is passed on, and it is none that asks to stop.
      refine (fillScript_steady id number bytes heap).outcome.bind fun result genuine => ?_
      cases result with
      | error fault => exact (steady_change _).bind fun _ _ => steady_throw genuine
      | ok script =>
        exact (steady_note _ _).bind fun _ _ => (steady_change _).bind fun _ _ => steady_pure id

/-- Locking the scripts of superclasses is steady if locking each is. -/
theorem lockOwners_steady {lock : UInt16 → StoreM SegmentId} (each : ∀ owner, (lock owner).Steady)
    (number : UInt16) (species locked : List UInt16) :
    SteadyWith (fun refused => ∀ fault ∈ refused, Fault.IsGenuine fault.1)
      (lockOwners lock number species locked) := by
  -- The list of locked scripts grows from species to species, so it stays quantified over.
  induction species generalizing locked with
  | nil => exact steadyWith_pure (by simp)
  | cons kind rest ih =>
    refine (steady_read _).bind fun known _ => ?_
    cases known with
    | none => exact (steady_note _ _).bind fun _ _ => ih locked
    | some owner =>
      simp only
      split
      · exact ih locked
      · refine (each owner).outcome.bind fun result genuine => ?_
        cases result with
        | ok id => exact ih (locked ++ [owner])
        | error fault => exact steadyWith_pure (by simpa using genuine)

/-- Taking back locks is steady. -/
theorem rollBack_steady (resident : Bool) (id : SegmentId) (locked : List UInt16) :
    (rollBack resident id locked).Steady := by
  -- A script that was there before gives up its lock; any other leaves.
  refine (steady_forM uninstantiateScript_steady locked).bind fun _ _ => ?_
  split
  · exact (steady_require fun _ => Heap.script_genuine id).bind fun _ _ => steady_change _
  · exact free_steady id

/-- Locking a script, however deep superclasses are followed, is steady. -/
theorem instantiateWithin_steady (resources : Resources) (bound : Nat) (number : UInt16) :
    (instantiateWithin resources bound number).Steady := by
  -- Superclasses lead to other scripts with a smaller bound.
  induction bound generalizing number with
  | zero => exact steady_throw (by simp)
  | succ bound ih =>
    refine (steady_read _).bind fun resident _ => (loadScript_steady _ _).bind fun id _ =>
      (steady_require fun _ => Heap.script_genuine id).bind fun script _ =>
      (steady_change _).bind fun _ _ => ?_
    split
    · exact steady_pure id
    · refine (lockOwners_steady ih number _ _).bind fun refused genuine => ?_
      cases refused with
      | none => exact steady_pure id
      | some refused =>
        exact (rollBack_steady _ _ _).bind fun _ _ => steady_throw (genuine refused rfl)

/-- Making sure that a script is in memory is steady. -/
theorem ensureScript_steady (resources : Resources) (number : UInt16) :
    (ensureScript resources number).Steady := by
  -- A resident script is answered as it is; any other is locked.
  refine (steady_read _).bind fun resident _ => ?_
  cases resident with
  | some id => exact steady_pure id
  | none => exact instantiateWithin_steady _ _ _

end Residency

section Records

/-- Finding the pool for new records is steady. -/
theorem currentPool_steady (kind : SegmentKind) : (currentPool kind).Steady := by
  -- A pool with room is answered as it is; otherwise a new one is put in.
  refine (steady_read _).bind fun current _ => ?_
  split
  · exact steady_pure current
  · exact (insert_steady _).bind fun _ _ => (steady_change _).bind fun _ _ => steady_pure _

/-- Making a record is steady. -/
theorem create_steady {α : Type} (records : RecordKind α) (make : Address → α) :
    (create records make).Steady := by
  -- There may be no pool, or no slot in it; both are genuine faults.
  refine (currentPool_steady _).bind fun id _ => (steady_read _).bind fun slot _ => ?_
  match slot with
  | none => exact steady_throw (by simp)
  | some none => exact steady_throw (by simp)
  | some (some index) => exact (steady_change _).bind fun _ _ => steady_pure _

/-- Making a clone is steady. -/
theorem createClone_steady (origin : Address) : (createClone origin).Steady :=
  (steady_require fun _ => Heap.object_genuine origin).bind fun _ _ => create_steady _ _

/-- Making a list is steady. -/
theorem createList_steady : createList.Steady :=
  create_steady _ _

/-- Making a node is steady. -/
theorem createNode_steady (value key : Address) : (createNode value key).Steady :=
  create_steady _ _

/-- Making a block in a segment of its own is steady. -/
theorem createDynmem_steady (size : Nat) (description : String) :
    (createDynmem size description).Steady := by
  -- A size that is refused is a genuine fault.
  have makes : Steady (do
      let id ← insert (.dynmem (.zeros size description))
      return (⟨id, 0⟩ : Address)) := (insert_steady _).bind fun _ _ => steady_pure _
  unfold createDynmem
  split
  · exact (steady_throw (by simp)).bind fun _ _ => makes
  · exact makes

/-- Failing to find something at an address is steady. -/
theorem throwInvalid_steady {α : Type} (address : Address) :
    (do throw (← StoreM.read (·.invalid address 0)) : StoreM α).Steady := by
  -- The fault is read from memory, and it is an invalid address.
  have asks : SteadyWith Fault.IsGenuine (StoreM.read (·.invalid address 0)) :=
    ⟨(steady_read _).alike, fun _ => Heap.invalid_isGenuine address 0⟩
  exact asks.bind fun _ genuine => steady_throw genuine

/-- Freeing a record is steady. -/
theorem freeRecord_steady (kind : SegmentKind) (address : Address) :
    (freeRecord kind address).Steady := by
  -- Without a record the address is invalid.
  refine (steady_read _).bind fun present _ => ?_
  split
  · exact steady_change _
  · exact throwInvalid_steady address

/-- Freeing a block in a segment of its own is steady. -/
theorem freeDynmem_steady (address : Address) : (freeDynmem address).Steady := by
  -- Another kind of segment makes the address invalid.
  refine (steady_read _).bind fun kind _ => ?_
  split
  · exact free_steady _
  · exact throwInvalid_steady address

/-- Freeing what is at an address is steady. -/
theorem freeAt_steady (address : Address) : (freeAt address).Steady := by
  -- By the kind of the segment: a script, a pool, or something that is not freed in this way.
  refine (steady_read _).bind fun kind _ => ?_
  split
  · exact free_steady _
  · split
    · exact freeRecord_steady _ _
    · exact throwInvalid_steady address
  · exact throwInvalid_steady address

/-- Storing a value is steady. -/
theorem writeValue_steady (address value : Address) : (writeValue address value).Steady :=
  (steady_read _).bind fun _ _ => (steady_record _).bind fun _ _ =>
    steady_attempt fun _ => Heap.writeValue_genuine address value

/-- Replacing a property is steady. -/
theorem writeProperty_steady (address : Address) (index : Nat) (value : Address) :
    (attempt (·.writeProperty address index value)).Steady :=
  steady_attempt fun _ => Heap.writeProperty_genuine address index value

/-- Looking for a text is steady. -/
theorem readString_steady (address : Address) : (readString address).Steady :=
  (steady_read _).bind fun _ _ => (steady_record _).bind fun _ _ =>
    steady_require fun _ => Heap.readString_genuine address

/-- Looking up a selector is steady. -/
theorem resolve_steady (receiver : Address) (selector : UInt16) :
    (resolve receiver selector).Steady :=
  steady_noted fun _ => Heap.search_genuine receiver selector _ receiver

/-- Asking whether an object understands a selector is steady. -/
theorem respondsTo_steady (receiver : Address) (selector : UInt16) :
    (respondsTo receiver selector).Steady := by
  -- The failure of the lookup is an answer here.
  refine (resolve_steady receiver selector).outcome.bind fun found _ => ?_
  cases found with
  | ok found => exact steady_pure _
  | error fault => exact steady_pure _

end Records

section Garbage

/-- Freeing one piece of garbage comes to the same, whatever was recorded before. -/
theorem sweepOne_sameHeap (collection : Collection) (address : Address) {first second : Store}
    (same : SameHeap first second) :
    RunsAlike SameHeap (sweepOne collection address) first second := by
  -- Whether something is freed is read from memory; its failure is only recorded.
  apply RunsAlike.of_get
  · simp only [show second.heap = first.heap from same]
  · apply ((freeAt_steady address).alike same).bind
    intro result _ _ _ same
    cases result with
    | ok value => exact ⟨rfl, same⟩
    | error fault => exact ⟨rfl, same⟩

/-- A collection comes to the same, whatever was recorded before. -/
theorem collect_sameHeap (context : Context) {first second : Store}
    (same : SameHeap first second) : RunsAlike SameHeap (collect context) first second := by
  -- The journal is only added to, and what is swept is found in the memory.
  apply RunsAlike.of_get
  · simp only [show second.heap = first.heap from same]
  · have noted : RunsAlike SameHeap (modify fun store : Store =>
        { store with journal := store.journal ++
          (first.heap.unreachable (first.heap.roots context)).records }) first second :=
      ⟨rfl, same⟩
    apply noted.bind
    intro _ _ _ _ same
    apply (RunsAlike.foldlM (fun collection address => sweepOne_sameHeap collection address) _ _
      same).bind
    intro collection _ _ _ same
    exact ⟨rfl, same⟩

end Garbage

section Lists

/-- Changing a node is steady. -/
theorem updateNode_steady (address : Address) (change : Node → Node) :
    (updateNode address change).Steady :=
  (steady_require fun _ => Heap.node_genuine address).bind fun _ _ => steady_change _

/-- Changing the ends of a list is steady. -/
theorem updateList_steady (address : Address) (change : ListEnds → ListEnds) :
    (updateList address change).Steady :=
  (steady_require fun _ => Heap.list_genuine address).bind fun _ _ => steady_change _

/-- Putting a node to the front of a list is steady. -/
theorem linkFront_steady (list node : Address) : (linkFront list node).Steady := by
  -- By whether the list was empty.
  refine (steady_require fun _ => Heap.list_genuine list).bind fun ends _ =>
    (updateNode_steady _ _).bind fun _ _ => ?_
  split
  · exact (updateList_steady _ _).bind fun _ _ => updateList_steady _ _
  · exact (updateNode_steady _ _).bind fun _ _ => updateList_steady _ _

/-- Putting a node after another one is steady. -/
theorem linkAfter_steady (list reference node : Address) :
    (linkAfter list reference node).Steady := by
  -- By whether the reference was the last node.
  refine (steady_require fun _ => Heap.node_genuine reference).bind fun entry _ =>
    (updateNode_steady _ _).bind fun _ _ => (updateNode_steady _ _).bind fun _ _ => ?_
  split
  · exact updateList_steady _ _
  · exact updateNode_steady _ _

/-- Taking a node out of a list is steady. -/
theorem unlink_steady (list address : Address) : (unlink list address).Steady := by
  refine (steady_require fun _ => Heap.node_genuine address).bind fun node _ => ?_
  -- The node before and the node after are each a neighbour or the list itself.
  have after : Steady (if node.succ.isNull then
      updateList list fun ends => { ends with last := node.pred }
    else updateNode node.succ fun entry => { entry with pred := node.pred }) := by
    split
    · exact updateList_steady _ _
    · exact updateNode_steady _ _
  dsimp only
  split
  · exact (updateList_steady _ _).bind fun _ _ => after
  · exact (updateNode_steady _ _).bind fun _ _ => after

/-- Looking for a node is steady. -/
theorem findNode?_steady (list key : Address) : (findNode? list key).Steady :=
  (steady_noted fun _ => Heap.listNodes_genuine list).bind fun _ _ => steady_read _

end Lists

end Store

namespace KernelCall

open StoreM

variable (call : KernelCall)

/-- Rejecting a call is steady. -/
theorem rejects_steady {α : Type} (message : String) :
    (call.rejects message : StoreM α).Steady :=
  steady_throw (by simp)

/-- Looking at an argument is steady. -/
theorem argument_steady (index : Nat) : (call.argument index).Steady := by
  -- A missing argument is refused.
  unfold argument
  split
  · exact steady_pure _
  · exact call.rejects_steady _

/-- Looking at a number is steady. -/
theorem number_steady (index : Nat) : (call.number index).Steady := by
  -- An address in place of a number is refused.
  refine (call.argument_steady index).bind fun value _ => ?_
  split
  · exact steady_pure _
  · exact call.rejects_steady _

/-- Looking at a number that may be missing is steady. -/
theorem number?_steady (index : Nat) : (call.number? index).Steady := by
  -- Without the argument the answer is a default.
  unfold number?
  split
  · exact (call.number_steady index).bind fun _ _ => steady_pure _
  · exact steady_pure _

/-- Giving a node a key is steady. -/
theorem setKey_steady (node : Address) (index : Nat) : (call.setKey node index).Steady := by
  -- A call without a key leaves the node alone.
  unfold setKey
  split
  · exact Store.updateNode_steady _ _
  · exact steady_pure _

/-- Reading from a list is steady. -/
theorem ofList_steady (absent : Address) (query : ListEnds → Address) :
    (call.ofList absent query).Steady := by
  -- Null stands for an empty list; any other address is looked up.
  refine (call.argument_steady 0).bind fun list _ => ?_
  split
  · exact steady_pure _
  · exact (steady_require fun _ => Heap.list_genuine list).bind fun _ _ => steady_pure _

/-- Reading from a node is steady. -/
theorem ofNode_steady (query : Node → Address) : (call.ofNode query).Steady := by
  -- Null stands for no node; any other address is looked up.
  refine (call.argument_steady 0).bind fun node _ => ?_
  split
  · exact steady_pure _
  · exact (steady_require fun _ => Heap.node_genuine node).bind fun _ _ => steady_pure _

/-- Copying bytes is steady. -/
theorem copyBytes_steady (target source : Address) (count : Nat) :
    (copyBytes target source count).Steady :=
  (steady_require fun _ => Heap.readBytes_genuine source count).bind fun data _ =>
    steady_attempt fun _ => Heap.writeBytes_genuine target data

/-- Cloning is steady. -/
theorem clone_steady : call.clone.Steady :=
  -- Only making the clone changes memory; what follows goes to the journal.
  (call.argument_steady 0).bind fun origin _ => (Store.createClone_steady origin).bind fun _ _ =>
    (steady_read _).bind fun _ _ => (steady_record _).bind fun _ _ =>
      (steady_read _).bind fun _ _ => (steady_note _ _).bind fun _ _ => steady_pure _

/-- Disposing of a clone is steady. -/
theorem disposeClone_steady : call.disposeClone.Steady := by
  -- What is not a clone is only warned about.
  refine (call.argument_steady 0).bind fun address _ => (steady_read _).bind fun isClone _ => ?_
  split
  · exact (Store.freeRecord_steady _ _).bind fun _ _ => steady_pure _
  · exact (steady_note _ _).bind fun _ _ => steady_pure _

/-- Looking up an export is steady. -/
theorem scriptID_steady : call.scriptID.Steady := by
  -- An export that is not there is only warned about.
  refine (call.number_steady 0).bind fun number _ => (call.number?_steady 1).bind fun index _ =>
    (Store.ensureScript_steady _ _).bind fun id _ =>
    (steady_require fun _ => Heap.script_genuine id).bind fun script _ => ?_
  split
  · exact steady_pure _
  · exact (steady_note _ _).bind fun _ _ => steady_pure _

/-- Disposing of a list and its nodes is steady. -/
theorem disposeList_steady : call.disposeList.Steady := by
  -- The nodes are gathered first, and then freed one by one.
  refine (call.argument_steady 0).bind fun list _ => ?_
  split
  · refine (steady_noted fun _ => Heap.listNodes_genuine list).bind fun nodes _ => ?_
    have each : (nodes.forM (Store.freeRecord .nodes)).Steady :=
      steady_foldlM (fun _ node => Store.freeRecord_steady .nodes node) nodes ()
    exact each.bind fun _ _ => (Store.freeRecord_steady _ _).bind fun _ _ => steady_pure _
  · exact steady_pure _

/-- Putting a node after another one is steady. -/
theorem addAfter_steady : call.addAfter.Steady := by
  -- Without a reference the node goes to the front.
  refine (call.argument_steady 0).bind fun list _ => (call.argument_steady 1).bind
    fun reference _ => (call.argument_steady 2).bind fun node _ =>
    (call.setKey_steady node 3).bind fun _ _ => ?_
  split
  · exact (Store.linkFront_steady _ _).bind fun _ _ => steady_pure _
  · exact (Store.linkAfter_steady _ _ _).bind fun _ _ => steady_pure _

/-- Putting a node to the front of a list is steady. -/
theorem addToFront_steady : call.addToFront.Steady :=
  -- The key is set first, then the node is linked.
  (call.argument_steady 0).bind fun list _ => (call.argument_steady 1).bind fun node _ =>
    (call.setKey_steady node 2).bind fun _ _ => (Store.linkFront_steady list node).bind fun _ _ =>
      steady_pure _

/-- Putting a node to the end of a list is steady. -/
theorem addToEnd_steady : call.addToEnd.Steady := by
  -- In an empty list the end is the front.
  refine (call.argument_steady 0).bind fun list _ => (call.argument_steady 1).bind fun node _ =>
    (call.setKey_steady node 2).bind fun _ _ =>
    (steady_require fun _ => Heap.list_genuine list).bind fun ends _ => ?_
  dsimp only
  split
  · exact (Store.linkFront_steady _ _).bind fun _ _ => steady_pure _
  · exact (Store.linkAfter_steady _ _ _).bind fun _ _ => steady_pure _

/-- Looking for a key is steady. -/
theorem findKey_steady : call.findKey.Steady := by
  -- Null stands for an empty list, in which there is nothing to find.
  refine (call.argument_steady 0).bind fun list _ => (call.argument_steady 1).bind fun key _ => ?_
  split
  · exact steady_pure _
  · exact (Store.findNode?_steady _ _).bind fun _ _ => steady_pure _

/-- Taking out and freeing a node is steady. -/
theorem deleteKey_steady : call.deleteKey.Steady := by
  refine (call.argument_steady 0).bind fun list _ => (call.argument_steady 1).bind fun key _ => ?_
  split
  · exact steady_pure _
  · refine (Store.findNode?_steady _ _).bind fun found _ => ?_
    -- Without a node nothing is done.
    cases found with
    | none => exact steady_pure _
    | some node =>
      exact (Store.unlink_steady _ _).bind fun _ _ => (Store.freeRecord_steady _ _).bind
        fun _ _ => steady_pure _

/-- Working on raw memory is steady, whatever the first argument asks for. -/
theorem memory_steady : call.memory.Steady := by
  refine (call.number_steady 0).bind fun subfunction _ => ?_
  -- Taking memory, giving it back, copying, reading, writing, and what is none of these.
  split
  · exact (call.number_steady 1).bind fun _ _ => Store.createDynmem_steady _ _
  · exact (call.number_steady 1).bind fun _ _ => Store.createDynmem_steady _ _
  · exact (call.argument_steady 1).bind fun _ _ => (Store.freeDynmem_steady _).bind fun _ _ =>
      steady_pure _
  · exact (call.argument_steady 1).bind fun _ _ => (call.argument_steady 2).bind fun _ _ =>
      (call.number_steady 3).bind fun _ _ => (copyBytes_steady _ _ _).bind fun _ _ =>
        steady_pure _
  · exact (call.argument_steady 1).bind fun address _ =>
      steady_require fun _ => Heap.readValue_genuine address
  · exact (call.argument_steady 1).bind fun _ _ => (call.argument_steady 2).bind fun _ _ =>
      (Store.writeValue_steady _ _).bind fun _ _ => steady_pure _
  · exact call.rejects_steady _

/-- Comparing texts is steady. -/
theorem strCmp_steady : call.strCmp.Steady :=
  -- Both texts are read, and nothing is written.
  (call.argument_steady 0).bind fun _ _ => (Store.readString_steady _).bind fun _ _ =>
    (call.argument_steady 1).bind fun _ _ => (Store.readString_steady _).bind fun _ _ =>
      (call.number?_steady 2).bind fun _ _ => steady_pure _

/-- Copying a text is steady. -/
theorem strCpy_steady : call.strCpy.Steady := by
  have writes (target : Address) (text : Bytes) : (attempt (·.writeString target text)).Steady :=
    steady_attempt fun _ => Heap.writeBytes_genuine _ _
  refine (call.argument_steady 0).bind fun target _ => (call.argument_steady 1).bind
    fun source _ => (call.number?_steady 2).bind fun bound _ => ?_
  -- There is no bound, a negative one that counts raw bytes, a positive one, or zero.
  split
  · exact (Store.readString_steady _).bind fun text _ => (writes target text).bind fun _ _ =>
      steady_pure _
  · split
    · exact (copyBytes_steady _ _ _).bind fun _ _ => steady_pure _
    · split
      · exact (Store.readString_steady _).bind fun text _ => (writes target _).bind fun _ _ =>
          steady_pure _
      · exact steady_pure _

/-- Reading or replacing a byte of a text is steady. -/
theorem strAt_steady : call.strAt.Steady := by
  -- The byte is read first; with a third argument it is then replaced.
  refine (call.argument_steady 0).bind fun text _ => (call.number_steady 1).bind fun index _ =>
    (steady_require fun _ => Heap.readBytes_genuine text _).bind fun data _ =>
    (call.number?_steady 2).bind fun byte _ => ?_
  cases byte with
  | none => exact steady_pure _
  | some byte =>
    exact (steady_attempt fun _ => Heap.writeBytes_genuine _ _).bind fun _ _ => steady_pure _

/-- Every kernel function that the machine brings along is steady. -/
theorem run_steady : call.run.Steady := by
  unfold run
  -- Most functions have lemmas of their own; the others look up arguments and do one thing.
  cases call.builtin with
  | clone => exact call.clone_steady
  | disposeClone => exact call.disposeClone_steady
  | isObject => exact (call.argument_steady 0).bind fun _ _ => (steady_read _).bind fun _ _ =>
      steady_pure _
  | respondsTo =>
    exact (call.argument_steady 0).bind fun _ _ => (call.number_steady 1).bind fun _ _ =>
      (Store.respondsTo_steady _ _).bind fun _ _ => steady_pure _
  | scriptID => exact call.scriptID_steady
  | disposeScript => exact (call.number_steady 0).bind fun _ _ =>
      (Store.uninstantiateScript_steady _).bind fun _ _ => steady_pure _
  | newList => exact Store.createList_steady
  | disposeList => exact call.disposeList_steady
  | newNode => exact (call.argument_steady 0).bind fun _ _ => Store.createNode_steady _ _
  | firstNode => exact call.ofList_steady _ _
  | lastNode => exact call.ofList_steady _ _
  | emptyList => exact call.ofList_steady _ _
  | nextNode => exact call.ofNode_steady _
  | prevNode => exact call.ofNode_steady _
  | nodeValue => exact call.ofNode_steady _
  | addAfter => exact call.addAfter_steady
  | addToFront => exact call.addToFront_steady
  | addToEnd => exact call.addToEnd_steady
  | findKey => exact call.findKey_steady
  | deleteKey => exact call.deleteKey_steady
  | memory => exact call.memory_steady
  | strLen =>
    exact (call.argument_steady 0).bind fun _ _ => (Store.readString_steady _).bind fun _ _ =>
      steady_pure _
  | strCmp => exact call.strCmp_steady
  | strCpy => exact call.strCpy_steady
  | strAt => exact call.strAt_steady

end KernelCall

end AdventureVm
