import AdventureVm.Proofs.Collector.Histories
import AdventureVm.Proofs.Memory.Indifference

/-!
A script that cannot be loaded leaves nothing behind.

Memory holds what it held, and nothing that is done or asked later shows that there was an attempt.
-/

namespace AdventureVm

namespace Action

/-- What an action answers when it succeeds. -/
def Reply : Action → Type
  | insert _ | loadScript _ _ | instantiate _ _ => SegmentId
  | readObject _ _ => Nat
  | createClone _ | createList | createNode _ _ | createHunk _ _ | createDynmem _ _ => Address
  | collect _ => Collection
  | _ => Unit

/-- The work that an action consists of. -/
def work : (action : Action) → StoreM action.Reply
  | insert segment => Store.insert segment
  | deallocate id => Store.free id
  | loadScript resources number => Store.loadScript resources number
  | instantiate resources number => Store.instantiateScript resources number
  | uninstantiate number => Store.uninstantiateScript number
  | readObject id offset => Store.instantiateObject id offset
  | createClone origin => Store.createClone origin
  | createList => Store.createList
  | createNode value key => Store.createNode value key
  | createHunk size description => Store.createHunk size description
  | createDynmem size description => Store.createDynmem size description
  | freeRecord kind address => Store.freeRecord kind address
  | freeDynmem address => Store.freeDynmem address
  | freeAt address => Store.freeAt address
  | writeValue address value => Store.writeValue address value
  | writeBytes address data => StoreM.attempt (·.writeBytes address data)
  | writeString address text => StoreM.attempt (·.writeString address text)
  | writeProperty address index value => StoreM.attempt (·.writeProperty address index value)
  | alter id change => StoreM.change (·.modify id change)
  | alterClasses change => StoreM.change fun heap => { heap with classes := change heap.classes }
  | collect context => ExceptT.lift (Store.collect context)

/-- An action leaves memory as its work does. -/
theorem run_eq_work (action : Action) (store : Store) :
    action.run store = (action.work.run store).2 := by
  cases action <;> rfl

/-- Every action is indifferent work. -/
theorem work_indifferent (action : Action) : action.work.Indifferent := by
  -- Each action has its own reason, which the lemma about its work gives.
  intro front back first second twins
  cases action with
  | insert segment => exact twins.insert segment
  | deallocate id => exact Store.free_indifferent id twins
  | loadScript resources number => exact Store.loadScript_indifferent resources number twins
  | instantiate resources number =>
    exact Store.instantiateScript_indifferent resources number twins
  | uninstantiate number => exact Store.uninstantiateScript_indifferent number twins
  | readObject id offset => exact Store.instantiateObject_indifferent id offset twins
  | createClone origin => exact Store.createClone_indifferent origin twins
  | createList => exact Store.create_indifferent .lists (fun _ => {}) twins
  | createNode value key =>
    exact Store.create_indifferent .nodes (fun _ => { value, key }) twins
  | createHunk size description =>
    exact Store.create_indifferent .hunks (fun _ => .zeros size description) twins
  | createDynmem size description => exact Store.createDynmem_indifferent size description twins
  | freeRecord kind address => exact Store.freeRecord_indifferent kind address twins
  | freeDynmem address => exact Store.freeDynmem_indifferent address twins
  | freeAt address => exact Store.freeAt_indifferent address twins
  | writeValue address value => exact Store.writeValue_indifferent address value twins
  | writeBytes address data => exact Store.replace_indifferent address _ data.size twins
  | writeString address text => exact Store.replace_indifferent address _ (text.push 0).size twins
  | writeProperty address index value =>
    exact Store.writeProperty_indifferent address index value twins
  | alter id change => exact twins.change (twins.framed.modify id change)
  | alterClasses change => exact twins.change (twins.framed.classes change)
  | collect context =>
    obtain ⟨same, left⟩ := Store.collect_runsAlike context twins
    exact ⟨congrArg Except.ok same, left⟩

end Action

/-- One thing that can be asked about memory from outside, by the type of its answer. -/
inductive Question : Type → Type where
  | version : Question Version
  | segment (id : SegmentId) : Question (Option Segment)
  | segmentIds : Question (List SegmentId)
  /-- The first segment of a kind. -/
  | firstOf (kind : SegmentKind) : Question (Option SegmentId)
  | isValidAddress (address : Address) : Question Bool
  | stack (id : SegmentId) : Question (Except Fault (Array Address))
  | systemStrings (id : SegmentId) : Question (Except Fault ScratchTexts)
  /-- The segment of a resident script. -/
  | resident (number : UInt16) : Question (Option SegmentId)
  | script (id : SegmentId) : Question (Except Fault Script)
  | scriptByNumber (number : UInt16) : Question (Option Script)
  | locals (id : SegmentId) : Question (Except Fault LocalsTable)
  | globals : Question (Option SegmentId)
  | classes : Question ClassTable
  /-- What is at an address. -/
  | view (address : Address) : Question (Except Fault View)
  | value (address : Address) : Question (Except Fault Address)
  | bytes (address : Address) (count : Nat) : Question (Except Fault Bytes)
  | object (address : Address) : Question (Except Fault Object)
  | property (address : Address) (index : Nat) : Question (Except Fault Address)
  | name (address : Address) : Question String
  | list (address : Address) : Question (Except Fault ListEnds)
  | node (address : Address) : Question (Except Fault Node)
  | canonical (address : Address) : Question (Option Address)
  | references (address : Address) : Question (List Address)
  | deallocatable : Question (List Address)
  | stats : Question HeapStats

namespace Question

/-- What a memory answers. -/
def answer {α : Type} : Question α → Heap → α
  | version, heap => heap.version
  | segment id, heap => heap.get? id
  | segmentIds, heap => heap.segmentIds
  | firstOf kind, heap => heap.findKind? kind
  | isValidAddress address, heap => heap.isValidAddress address
  | stack id, heap => heap.stack id
  | systemStrings id, heap => heap.systemStrings id
  | resident number, heap => heap.scriptSegment? number
  | script id, heap => heap.script id
  | scriptByNumber number, heap => heap.scriptByNumber? number
  | locals id, heap => heap.locals id
  | globals, heap => heap.globalsSegment?
  | classes, heap => heap.classes
  | view address, heap => heap.dereference address
  | value address, heap => heap.readValue address
  | bytes address count, heap => heap.readBytes address count
  | object address, heap => heap.object address
  | property address index, heap => heap.readProperty address index
  | name address, heap => heap.objectName address
  | list address, heap => heap.list address
  | node address, heap => heap.node address
  | canonical address, heap => heap.canonical? address
  | references address, heap => heap.references address
  | deallocatable, heap => heap.deallocatable
  | stats, heap => heap.stats

/-- No answer shows an empty place at the end of the table. -/
theorem answer_spaced {α : Type} (question : Question α) (heap : Heap) :
    question.answer heap.spaced = question.answer heap := by
  -- Every answer is put together from what is in the places and from the other tables.
  cases question with
  | firstOf kind => simp [answer, Heap.findKind?]
  | systemStrings id => simp [answer, Heap.systemStrings, Heap.wrongSegment]
  | value address => simp [answer, Heap.readValue]
  | bytes address count => simp [answer, Heap.readBytes]
  | property address index => simp [answer, Heap.readProperty]
  | list address => simp [answer, Heap.list]
  | node address => simp [answer, Heap.node]
  | stats => simp [answer, Heap.stats]
  | _ => simp [answer]

end Question

/-- One thing that is wanted of memory from outside: to change, or to tell something. -/
inductive Request where
  | act (action : Action)
  | ask {α : Type} (question : Question α)
  /-- Looks for a text, with a warning when nothing ends it. -/
  | readString (address : Address)
  /-- Looks up a selector, with a warning when the search breaks off. -/
  | resolve (receiver : Address) (selector : UInt16)

namespace Request

/-- What a request is answered with when it succeeds. -/
def Reply : Request → Type
  | act action => action.Reply
  | @ask α _ => α
  | readString _ => Bytes
  | resolve _ _ => SelectorLookup

/-- The work that a request consists of. -/
def work : (request : Request) → StoreM request.Reply
  | act action => action.work
  | ask question => StoreM.read question.answer
  | readString address => Store.readString address
  | resolve receiver selector => Store.resolve receiver selector

/-- Every request is indifferent work. -/
theorem work_indifferent (request : Request) : request.work.Indifferent := by
  -- One lemma for actions, and one for each way to ask.
  intro front back first second twins
  cases request with
  | act action => exact action.work_indifferent twins
  | ask question => exact twins.read question.answer_spaced
  | readString address => exact Store.readString_indifferent address twins
  | resolve receiver selector => exact Store.resolve_indifferent receiver selector twins

end Request

namespace Store

/-- What requests are answered with, one after the other. -/
def transcript : List Request → Store → List (Σ request : Request, Except Fault request.Reply)
  | [], _ => []
  | request :: rest, store =>
    ⟨request, (request.work.run store).1⟩ :: transcript rest (request.work.run store).2

/-- Requests get the same answers in twins. -/
theorem Twins.transcript {front back : Journal} {first second : Store}
    (twins : Twins front back first second) (requests : List Request) :
    transcript requests second = transcript requests first := by
  -- Each request leaves twins, in which the next one starts.
  induction requests generalizing first second with
  | nil => rfl
  | cons request rest ih =>
    obtain ⟨same, left⟩ := request.work_indifferent twins
    exact congrArg₂ List.cons (congrArg (Sigma.mk request) same) (ih left)

/-- A memory that requests have led to, whatever they were and whether they succeeded or failed. -/
inductive Reached : Store → Prop where
  | blank (version : Version) (classes : ClassTable) (journal : Journal) :
      Reached (blank version classes journal)
  | step {store : Store} (reached : Reached store) (request : Request) :
      Reached (request.work.run store).2

/-- A memory that arises from careful actions is one that requests can lead to. -/
theorem Arises.reached {store : Store} (arises : store.Arises) : store.Reached := by
  -- Induction on the actions, each of which is one of the requests.
  induction arises with
  | blank version classes journal => exact .blank version classes journal
  | @step _ action _ _ reached =>
    rw [Action.run_eq_work]
    exact reached.step (.act action)

/-- Memory that was reached has resident scripts in places of its table only. -/
theorem Reached.framed {store : Store} (reached : store.Reached) : store.heap.Framed := by
  induction reached with
  | blank version classes journal =>
    exact ⟨by simp [Store.blank], by simp [Store.blank, segmentLimit], by simp [Store.blank]⟩
  | @step store _ request framed =>
    -- A memory is its own twin, and requests leave twins.
    have twins : Twins #[] #[] store store := ⟨framed, .inl rfl, store.journal, by simp, by simp⟩
    exact (request.work_indifferent twins).2.framed

/-- A script that cannot be loaded leaves an empty place at the end of the table at most. -/
theorem loadScript_retracts (resources : Resources) (number : UInt16) (store : Store)
    (framed : store.heap.Framed) :
    Leads (loadScript resources number) store (Either (fun _ _ => True) fun _ after =>
      after.heap = store.heap ∨
        store.heap.segments.size < segmentLimit ∧ after.heap = store.heap.spaced) := by
  -- What can be missing is looked for first: the resource, its heap part, a place in memory.
  unfold loadScript
  simp only [leads_bind, StoreM.leads_read, either_ok]
  cases store.heap.scriptSegment? number with
  | some id => exact trivial
  | none =>
    cases resources.script? number with
    | none => exact .inl rfl
    | some bytes =>
      simp only [leads_bind, StoreM.leads_read, StoreM.leads_require, either_ok]
      cases heapResource store.heap.version resources number with
      | error fault => exact .inl rfl
      | ok heap =>
        rw [either_ok, leads_insert]
        cases next : store.heap.nextId? with
        | none => exact .inl rfl
        | some id =>
          simp only [either_ok, StoreM.leads_outcome]
          apply (fillScript_reaches id number bytes heap _).either
          · exact fun _ _ _ => trivial
          · -- The place is given back.
            intro fault between same
            simp only [leads_bind, StoreM.leads_change, leads_throw, either_ok, either_error]
            rw [heap_mapHeap, same]
            exact Heap.vacated_or_spaced _ framed next

/--
A script that cannot be loaded leaves nothing behind.

Every segment is as it was or is still missing, and so are the resident scripts, the known classes
and the current pools. Whatever is done and asked later has the same results as without the attempt.
-/
theorem failed_load_leaves_nothing {store after : Store} (reached : store.Reached)
    {resources : Resources} {number : UInt16} {fault : Fault}
    (failed : (loadScript resources number).run store = (.error fault, after)) :
    store.heap.Alike after.heap ∧
      ∀ later : List Request, transcript later after = transcript later store := by
  -- What is left makes memory before and after twins, with nothing recorded since.
  have left := loadScript_retracts resources number store reached.framed
  rw [Leads, failed] at left
  have twins : Twins store.journal after.journal store after :=
    ⟨reached.framed, left, #[], by simp, by simp⟩
  refine ⟨⟨twins.get?, ?_, ?_, ?_, ?_⟩, twins.transcript⟩
  · exact twins.same (·.residents) fun _ => rfl
  · exact twins.same (·.classes) fun _ => rfl
  · exact twins.same (·.pools) fun _ => rfl
  · exact twins.same (·.version) fun _ => rfl

/-- Resources in which every script breaks off in its first block. -/
def brokenResources : Resources where
  script? _ := some #[0, 0, 0, 0, 1, 0, 40, 0]
  heap? _ := none

/-- A script breaks off when it is loaded, and only an empty place remains. -/
theorem failed_load_leaves_nothing_broken :
    ∃ fault after, (loadScript brokenResources 7).run twoLists = (.error fault, after) ∧
      after.heap.segments.size = twoLists.heap.segments.size + 1 ∧
      twoLists.heap.Alike after.heap ∧
      ∀ later : List Request, transcript later after = transcript later twoLists := by
  -- The failure is computed; what it leaves is told by the general theorem.
  have arises : twoLists.Arises := .step (.step (.blank .sci0 {} #[]) trivial) trivial
  have refused : ((loadScript brokenResources 7).run twoLists).1.toOption = none := by
    decide +kernel
  obtain ⟨fault, failed⟩ := StoreM.failed_of_toOption refused
  exact ⟨fault, _, failed, by decide +kernel, failed_load_leaves_nothing arises.reached failed⟩

end Store

end AdventureVm
