import AdventureVm.Proofs.Memory.Developing

/-! Everything that can be asked of memory, short of freeing a script, develops it step by step. -/

namespace AdventureVm

namespace StoreM

variable {α β : Type}

/-- Work that leads memory from step to step, whether it succeeds or fails. -/
def Advances (work : StoreM α) : Prop :=
  ∀ store, 0 < store.heap.segments.size →
    Leads work store fun _ after => store.heap.Develops after.heap

/-- Giving a value changes nothing. -/
theorem advances_pure (value : α) : Advances (pure value) :=
  fun _ _ => .refl

/-- Failing changes nothing. -/
theorem advances_throw (fault : Fault) : Advances (throw fault : StoreM α) :=
  fun _ _ => .refl

/-- Reading changes nothing. -/
theorem advances_read (query : Heap → α) : Advances (read query) :=
  fun _ _ => .refl

/-- Reading what may not be there changes nothing. -/
theorem advances_require (query : Heap → Except Fault α) : Advances (require query) := by
  -- A query that fails leaves memory as well.
  intro store _
  rw [leads_require]
  exact .refl

/-- A record changes nothing in memory. -/
theorem advances_note (level : Level) (text : String) : Advances (note level text) :=
  fun _ _ => .refl

/-- Records change nothing in memory. -/
theorem advances_record (records : List Record) : Advances (record records) :=
  fun _ _ => .refl

/-- A change is a step if it is one from every memory. -/
theorem advances_change {step : Heap → Heap}
    (develops : ∀ heap : Heap, heap.Develops (step heap)) :
    Advances (change step) :=
  fun store _ => develops store.heap

/-- An attempt is a step if it is one wherever it succeeds. -/
theorem advances_attempt {step : Heap → Except Fault Heap}
    (develops : ∀ heap after : Heap, step heap = .ok after → heap.Develops after) :
    Advances (attempt step) := by
  -- An attempt that fails leaves memory as it is.
  intro store _
  rw [leads_attempt]
  split
  · rename_i after done
    exact develops store.heap after done
  · exact .refl

/-- Two pieces of work that lead from step to step do so together. -/
theorem Advances.bind {first : StoreM α} {next : α → StoreM β} (advances : first.Advances)
    (advancesNext : ∀ value, (next value).Advances) : (first >>= next).Advances := by
  intro store opened
  rw [leads_bind]
  apply (advances store opened).mono
  intro outcome between develops
  -- A failure ends the work after the first piece.
  cases outcome with
  | ok value =>
    rw [either_ok]
    apply (advancesNext value between (develops.opened opened)).mono
    intro _ after further
    exact develops.trans further
  | error fault => exact develops

/-- Work whose failure is answered leads as far as the work itself. -/
theorem Advances.outcome {work : StoreM α} (advances : work.Advances) :
    (outcome work).Advances := by
  -- The memory afterwards is the same; only the answer is wrapped.
  intro store opened
  rw [leads_outcome]
  exact advances store opened

/-- Going through a row leads from step to step if each turn does. -/
theorem advances_foldlM {each : β → α → StoreM β}
    (advances : ∀ state value, (each state value).Advances) (values : Array α) (state : β) :
    (values.foldlM each state).Advances := by
  -- A row is gone through like the list of its members.
  rw [← Array.foldlM_toList]
  induction values.toList generalizing state with
  | nil => exact advances_pure state
  | cons first rest ih => exact (advances state first).bind ih

/-- Reading with records of the search changes nothing. -/
theorem advances_noted (query : Heap → Except Fault (α × List Record)) : Advances (noted query) :=
  (advances_require query).bind fun found =>
    (advances_record found.2).bind fun _ => advances_pure found.1

end StoreM

namespace Store

open Heap StoreM

/-- Putting in a segment is a step, when a script is put where it and its objects belong. -/
theorem insert_develops {segment : Segment} {store : Store} (loose : segment.IsLoose)
    (home : ∀ id script, store.heap.nextId? = some id → segment = .script script →
      script.IsAtHome id) (nodeless : segment.IsNodeless) (reachable : segment.IsReachable) :
    Leads (Store.insert segment) store fun _ after => store.heap.Develops after.heap := by
  -- A full memory stays as it is; otherwise the next place is filled.
  rw [leads_insert]
  cases next : store.heap.nextId? with
  | none => exact .refl
  | some id =>
    exact .inserted .refl next loose (fun script same => home id script next same) nodeless
      reachable

/-- Putting in an operand stack is a step. -/
theorem allocateStack_advances (size : Nat) : (allocateStack size).Advances :=
  fun _ _ => insert_develops ⟨trivial, by simp⟩ (by simp) nofun nofun

/-- Putting in the scratch texts is a step. -/
theorem allocateSystemStrings_advances : allocateSystemStrings.Advances :=
  fun _ _ => insert_develops ⟨trivial, by simp⟩ (by simp) nofun nofun

/-- A segment with nothing in it has no objects. -/
theorem bare_empty (kind : SegmentKind) (script : Script)
    (same : Segment.empty kind = .script script) (id : SegmentId) : script.IsAtHome id := by
  -- Only the empty script has to be looked at.
  cases kind <;> simp only [Segment.empty, reduceCtorEq, Segment.script.injEq] at same
  subst same
  exact Script.isAtHome_empty 0 id

/-- A segment with nothing in it has no variables that offsets could not reach. -/
theorem reachable_empty (kind : SegmentKind) : (Segment.empty kind).IsReachable := by
  -- Only the empty table has to be looked at.
  intro table same
  cases kind <;> simp only [Segment.empty, reduceCtorEq, Segment.locals.injEq] at same
  subst same
  exact Nat.zero_le _

/-- Looking for the current pool, or making it, leads from step to step. -/
theorem currentPool_advances (kind : SegmentKind) : (currentPool kind).Advances := by
  intro store _
  simp only [currentPool, leads_bind, leads_read, either_ok]
  split
  · exact .refl
  · -- The segment that was put in is a pool of the kind.
    rename_i first
    rw [allocate, leads_bind, leads_insert]
    cases next : store.heap.nextId? with
    | none => exact .refl
    | some id =>
      obtain ⟨atEnd, _⟩ := nextId?_vacant next
      have inserted : store.heap.Develops (store.heap.insert id (.empty kind)) :=
        .inserted .refl next (Segment.isLoose_empty kind)
          (fun script same => bare_empty kind script same id) (Segment.isNodeless_empty kind)
          (reachable_empty kind)
      have found : (store.heap.insert id (.empty kind)).kind? id = some kind := by
        rw [kind?, get?_insert atEnd, if_pos rfl]
        cases kind <;> rfl
      have none : (store.heap.insert id (.empty kind)).pools.get kind = 0 := by
        rw [pools_insert]
        exact Decidable.not_not.mp first
      exact .pooled inserted found none

/-- The pool that new records go into is the current one. -/
theorem currentPool_current {kind : SegmentKind} (isPool : kind.isPool = true) (store : Store) :
    Leads (currentPool kind) store
      (Either (fun id after => after.heap.pools.get kind = id) fun _ _ => True) := by
  simp only [currentPool, leads_bind, leads_read, either_ok]
  -- The pool is there already, or it is made and then current.
  split
  · exact rfl
  · rw [leads_bind]
    apply Leads.intro
    intro outcome after _
    cases outcome with
    | error fault => trivial
    | ok id => exact (CurrentPools.get_set _ kind kind id).trans (if_pos ⟨rfl, isPool⟩)

/-- Records of another kind are not in pools of nodes. -/
theorem modify_nodes {α : Type} {records : RecordKind α} (lawful : records.Lawful)
    (other : records.kind ≠ .nodes) (change : Pool α → Pool α) (pool : Pool Node) :
    records.modify change (.nodes pool) = .nodes pool := by
  -- A pool of nodes is of no other kind, so the change finds no pool.
  unfold RecordKind.modify
  split
  · rename_i others found
    have bearing := lawful.bearing others
    rw [← lawful.segment_of_pool? found] at bearing
    exact absurd (congrArg Prod.fst bearing).symm other
  · rfl

/-- Making a record leads from step to step. -/
theorem create_advances {α : Type} {records : RecordKind α} (lawful : records.Lawful)
    (make : Address → α) : (create records make).Advances := by
  intro store opened
  simp only [create, leads_bind]
  apply ((currentPool_advances records.kind store opened).and
    (currentPool_current lawful.isPool store)).mono
  rintro outcome between ⟨develops, current⟩
  cases outcome with
  | error fault => exact develops
  | ok id =>
    simp only [leads_read, either_ok]
    split
    · exact develops
    · exact develops
    · -- The pool has a next slot, so one more record does not make it outgrow its offsets.
      rename_i index slot
      simp only [leads_bind, leads_change, either_ok, leads_pure]
      refine develops.modify ?_ ?_
      · intro segment found
        rw [found, Option.bind_some] at slot
        apply lawful.persists
        intro pool inside bounded
        rw [inside, Option.map_some, Option.some.injEq] at slot
        exact Pool.size_occupy slot bounded _
      · -- A new node goes into the current pool of nodes.
        by_cases kind : records.kind = .nodes
        · exact .inl (kind ▸ current)
        · exact .inr fun segment _ =>
            Segment.bringsNoNodes_of_spares (modify_nodes lawful kind _) segment

/-- Making a clone leads from step to step. -/
theorem createClone_advances (origin : Address) : (createClone origin).Advances :=
  (advances_require _).bind fun _ => create_advances RecordKind.clones_lawful _

/-- Making a block of dynamic memory leads from step to step. -/
theorem createDynmem_advances (size : Nat) (description : String) :
    (createDynmem size description).Advances := by
  -- A block is no script and no pool.
  have loose : (Segment.dynmem (.zeros size description)).IsLoose := ⟨trivial, by simp⟩
  unfold createDynmem
  split
  · exact advances_throw _
  · have inserts : (Store.insert (.dynmem (.zeros size description))).Advances :=
      fun _ _ => insert_develops loose (by simp) nofun nofun
    exact inserts.bind fun _ => advances_pure _

/-- Freeing a record is a step. -/
theorem freeRecord_advances (kind : SegmentKind) (address : Address) :
    (freeRecord kind address).Advances := by
  -- Freeing a slot of a pool keeps what holds the pool in its place.
  refine (advances_read _).bind fun present => ?_
  split
  · exact advances_change fun heap => Develops.refl.modify
      (fun segment _ => segment.persists_release _)
      (.inr fun segment _ => segment.bringsNoNodes_release _)
  · exact (advances_read _).bind fun fault => advances_throw fault

/-- Taking out a segment that is neither a script nor variables nor a stack is a step. -/
theorem free_develops {id : SegmentId} {store : Store} {segment : Segment}
    (found : store.heap.get? id = some segment) (passing : ¬ segment.IsLasting)
    (noStack : segment.kind ≠ .stack) :
    Leads (free id) store fun _ after => store.heap.Develops after.heap := by
  -- Nothing but a script takes other segments with it when it leaves.
  have other := passing
  rw [Segment.IsLasting, not_or] at other
  obtain ⟨after, ended, left⟩ := deallocate_other found other.1
  simp only [Leads, free, ExceptT.run, ended]
  rw [left]
  exact .vacated .refl found passing noStack

/-- Freeing a block of dynamic memory is a step. -/
theorem freeDynmem_advances (address : Address) : (freeDynmem address).Advances := by
  -- Another kind of segment is refused.
  intro store _
  simp only [freeDynmem, leads_bind, leads_read, either_ok]
  split
  · rename_i block
    obtain ⟨segment, found, kind⟩ := Option.map_eq_some_iff.mp block.1
    exact free_develops found (by simp [Segment.IsLasting, kind]) (by simp [kind])
  · exact .refl

/-- Storing a value, with a record of it, is a step. -/
theorem writeValue_advances (address value : Address) : (writeValue address value).Advances :=
  (advances_read _).bind fun records => (advances_record records).bind fun _ =>
    advances_attempt fun _ _ done => Develops.refl.writeValue done

/-- Reading a text changes nothing. -/
theorem readString_advances (address : Address) : (readString address).Advances :=
  (advances_read _).bind fun records => (advances_record records).bind fun _ =>
    advances_require _

/-- Reading one more object record of a script leads from step to step. -/
theorem instantiateObject_advances (id : SegmentId) (offset : UInt16) :
    (instantiateObject id offset).Advances := by
  intro store _
  simp only [instantiateObject, leads_bind, leads_require, leads_read]
  cases found : store.heap.script id with
  | error fault => exact .refl
  | ok script =>
    simp only [either_ok]
    cases read : script.instantiateObject store.heap.version offset with
    | error fault => exact .refl
    | ok result =>
      obtain ⟨index, extended⟩ := result
      have present := script_eq_ok.mp found
      have step : store.heap.Develops (store.heap.put id (some (.script extended))) :=
        .read .refl present read
      simp only [either_ok, leads_change]
      split
      · rename_i object member
        split
        · -- The object that was read is one of the script's.
          have presentNow : (store.heap.put id (some (.script extended))).get? id =
              some (.script extended) := by
            rw [get?_put present, if_pos rfl]
          exact .registered step presentNow (Array.mem_of_getElem? member) object.species
            script.number
        · exact step
      · exact step

/-- Loading a script leads from step to step. -/
theorem loadScript_advances (resources : Resources) (number : UInt16) :
    (loadScript resources number).Advances := by
  intro store opened
  apply (leads_loadScript_opened resources number store opened).either
  · intro id after arrived
    -- The script is in memory already, or loading it is one step.
    rcases arrived with ⟨_, rfl⟩ | ⟨loaded, sound⟩
    · exact .refl
    · exact .loaded .refl loaded sound
  · intro fault after failed
    obtain ⟨alike, grown, sound⟩ := failed
    exact .alike .refl alike grown sound

/-- Dropping locks leads from step to step. -/
theorem release_develops (store : Store) (numbers : List UInt16) :
    store.heap.Develops (store.release numbers).heap := by
  -- A script with one user less differs in nothing but who needs it.
  have step : ∀ {heap : Heap} {id : SegmentId} {script : Script},
      heap.get? id = some (.script script) →
        heap.Develops (heap.put id (some (.script (unlocked script)))) := by
    intro heap id script found
    obtain ⟨lockers, deleted, holds, same⟩ := unlocked_eq script
    rw [same]
    have steady := Segment.steady_withLocks script lockers deleted holds
    exact .replaced .refl found (steady.persists (by simp [Segment.kind]) (by simp [Segment.kind]))
      (.inr nofun)
  -- Each turn of the recursion takes at most one such step.
  fun_induction release store numbers with
  | case1 store => exact .refl
  | case2 store number rest absent ih => exact ih
  | case3 store number rest id placed script found idle ih => exact ih
  | case4 store number rest id placed script found busy changed last noted holds ih =>
    exact (step found).trans ih
  | case5 store number rest id placed script found busy changed last noted free ih =>
    exact (step found).trans ih
  | case6 store number rest id placed script found busy changed more ih =>
    exact (step found).trans ih
  | case7 store number rest id placed elsewhere ih => exact ih

/-- Dropping one lock leads from step to step. -/
theorem uninstantiateScript_advances (number : UInt16) : (uninstantiateScript number).Advances :=
  fun store _ => release_develops store [number]

/-- Locking the scripts of superclasses leads from step to step if locking each of them does. -/
theorem lockOwners_advances {lock : UInt16 → StoreM SegmentId}
    (each : ∀ owner, (lock owner).Advances) (number : UInt16) (species locked : List UInt16) :
    (lockOwners lock number species locked).Advances := by
  intro store opened
  -- Whether a script could be locked or not, memory has come a few steps further.
  have goesOn (owner : UInt16) : (lock owner).Keeps store.heap.Develops := by
    intro between develops
    exact (each owner between (develops.opened opened)).mono fun _ _ further =>
      develops.trans further
  exact (leads_lockOwners_keeps goesOn species locked .refl).certain fun _ _ develops => develops

/-- A script that was brought along, with its variables, has them in memory. -/
structure CameAlong (start : Heap) (id : SegmentId) (script : Script) (heap : Heap) : Prop where
  /-- The script and its variables are where there was nothing. -/
  vacant : ∀ place, leavesWith id script place → start.get? place = none
  /-- The variables are still there. -/
  table : script.localsSegment ≠ 0 →
    ∃ table, heap.get? script.localsSegment = some (.locals table)

/-- A script that was not resident came along. -/
theorem cameAlong_of_arrival {before after : Store} {resources : Resources} {number : UInt16}
    {id : SegmentId} {script : Script}
    (arrived : before.heap.scriptSegment? number = some id ∧ after = before ∨
      before.heap.Loaded resources number id after.heap ∧
        (before.heap.Sound → after.heap.Sound))
    (found : after.heap.get? id = some (.script script))
    (absent : (before.heap.scriptSegment? number).isSome = false) :
    CameAlong before.heap id script after.heap := by
  rcases arrived with ⟨placed, _⟩ | ⟨loaded, _⟩
  · -- A script that was resident is not meant.
    rw [placed] at absent
    simp at absent
  · refine ⟨?_, ?_⟩
    · intro place leaves
      have arrivals := loaded.arrivals script found place
      rwa [if_pos leaves] at arrivals
    · intro withVariables
      obtain ⟨_, _, _, tableAt⟩ := loaded.ownVariables script found withVariables
      exact ⟨_, tableAt⟩

/-- A script that came along is still one that came along when memory has developed. -/
theorem CameAlong.develops {start between after : Heap} {id : SegmentId} {script later : Script}
    (came : CameAlong start id script between) (develops : between.Develops after)
    (same : later.localsSegment = script.localsSegment) : CameAlong start id later after := by
  refine ⟨?_, ?_⟩
  · intro place leaves
    rw [leavesWith, same] at leaves
    exact came.vacant place leaves
  · intro withVariables
    rw [same] at withVariables ⊢
    obtain ⟨table, tableAt⟩ := came.table withVariables
    -- The table of the variables stays a table while memory develops.
    obtain ⟨segment, present, akin⟩ := develops.stays tableAt (.inr rfl)
    obtain ⟨other, rfl, _⟩ := akin.of_locals
    exact ⟨other, present⟩

/-- A rollback leads from step to step: the script stays unlocked, or leaves as it came. -/
theorem rollBack_develops {start : Heap} {resident : Bool} {id : SegmentId} {script : Script}
    (locked : List UInt16) (store : Store) (develops : start.Develops store.heap)
    (found : store.heap.get? id = some (.script script))
    (came : resident = false → CameAlong start id script store.heap) :
    Leads (rollBack resident id locked) store
      (Either (fun _ after => start.Develops after.heap) fun _ _ => False) := by
  have released := release_develops store locked
  have whole := develops.trans released
  obtain ⟨later, foundAfter, _, sameVariables⟩ := released.script_stays found
  refine leads_rollBack foundAfter (fun _ => ?_) fun vain => ?_
  · -- A script that was there before stays, with the lock taken back.
    exact whole.modifyScript foundAfter ⟨_, _, _, rfl⟩
  · -- A script that came in vain leaves, with the variables that came with it.
    have along := (came vain).develops released sameVariables
    obtain ⟨after, ended, left⟩ := deallocate_left foundAfter along.table
    simp only [Leads, free, ExceptT.run, ended]
    refine .departed whole foundAfter ?_ left
    intro place segment leaves there
    rw [along.vacant place leaves] at there
    simp at there

/-- When the script of a superclass could not be locked, the rollback is a step and succeeds. -/
theorem refusal_develops {store loaded between : Store} {resources : Resources} {number : UInt16}
    {id : SegmentId} {script : Script} (taken : List UInt16)
    (arrived : store.heap.scriptSegment? number = some id ∧ loaded = store ∨
      store.heap.Loaded resources number id loaded.heap ∧
        (store.heap.Sound → loaded.heap.Sound))
    (develops : store.heap.Develops loaded.heap)
    (found : loaded.heap.get? id = some (.script script))
    (since : loaded.heap.Develops between.heap) :
    Leads (rollBack (store.heap.scriptSegment? number).isSome id taken) between
      (Either (fun _ after => store.heap.Develops after.heap) fun _ _ => False) := by
  -- The script is still where it was loaded, so the rollback finds it there.
  obtain ⟨later, foundNow, _, sameVariables⟩ := since.script_stays found
  refine rollBack_develops taken between (develops.trans since) foundNow ?_
  exact fun absent => (cameAlong_of_arrival arrived found absent).develops since sameVariables

/-- Locking a script leads from step to step, also when it fails. -/
theorem instantiateWithin_advances (resources : Resources) (bound : Nat) (number : UInt16) :
    (instantiateWithin resources bound number).Advances := by
  -- The bound counts how far superclasses are followed, from any script and any memory.
  induction bound generalizing number with
  | zero => exact advances_throw _
  | succ bound ih =>
    intro store opened
    simp only [instantiateWithin, leads_bind, leads_read, either_ok]
    apply ((leads_loadScript_opened resources number store opened).and
      (loadScript_advances resources number store opened)).mono
    intro outcome loaded both
    obtain ⟨arrived, develops⟩ := both
    cases outcome with
    | error fault => exact develops
    | ok id =>
      rw [either_ok] at arrived
      rw [either_ok, leads_require]
      cases present : loaded.heap.script id with
      | error fault => exact develops
      | ok script =>
        have found := script_eq_ok.mp present
        simp only [either_ok, leads_change]
        have marks : loaded.heap.Develops (loaded.heap.modifyScript id fun script =>
            { script.lock.mark false with holdsSuperclasses := true }) :=
          Develops.refl.modifyScript found ⟨_, _, _, rfl⟩
        have marked := develops.trans marks
        split
        · exact marked
        · rw [leads_bind]
          apply (lockOwners_advances ih number script.superclasses [] _
            (marked.opened opened)).mono
          intro ended between locked
          have whole := marked.trans locked
          cases ended with
          | error fault => exact whole
          | ok failure =>
            -- Where all superclasses are locked, nothing else happens.
            cases failure with
            | none => exact whole
            | some failed =>
              obtain ⟨fault, taken⟩ := failed
              simp only [either_ok, leads_bind]
              apply (refusal_develops taken arrived develops found (marks.trans locked)).certain
              intro _ after settled
              exact settled

/-- Locking a script leads from step to step. -/
theorem instantiateScript_advances (resources : Resources) (number : UInt16) :
    (instantiateScript resources number).Advances :=
  instantiateWithin_advances resources (segmentLimit + 1) number

/-- Making sure that a script is in memory leads from step to step. -/
theorem ensureScript_advances (resources : Resources) (number : UInt16) :
    (ensureScript resources number).Advances := by
  -- A resident script is answered as it is; any other is locked.
  refine (advances_read _).bind fun resident => ?_
  cases resident with
  | some id => exact advances_pure id
  | none => exact instantiateScript_advances resources number

end Store

end AdventureVm
