import AdventureVm.Collector.Mark
import AdventureVm.Proofs.Memory.Sound

/-! What running code and locked scripts can get at, and how marking lists it. -/

namespace AdventureVm

namespace Heap

/--
An address leads to a thing that is in memory, which the second address stands for.

Local variables lead to their script, a record of a pool to itself, and an address in any other
segment to the whole segment.
-/
inductive LeadsTo (heap : Heap) (address : Address) : Address → Prop where
  /-- A local variable is part of the script that has it. -/
  | locals {table : LocalsTable} {owner : SegmentId}
      (found : heap.get? address.segment = some (.locals table))
      (placed : heap.scriptSegment? table.script = some owner) : LeadsTo heap address ⟨owner, 0⟩
  /-- A record stands for itself while it is in its pool. -/
  | record {segment : Segment} (found : heap.get? address.segment = some segment)
      (pool : segment.kind.isPool = true) (live : segment.isValidOffset address.offset = true) :
      LeadsTo heap address address
  /-- Any other segment is one thing, whatever the offset. -/
  | whole {segment : Segment} (found : heap.get? address.segment = some segment)
      (noPool : segment.kind.isPool = false) (noLocals : segment.kind ≠ .locals) :
      LeadsTo heap address ⟨address.segment, 0⟩

/-- Running code or the lock on a script refers to a value directly. -/
inductive Root (heap : Heap) (context : Context) : Address → Prop where
  | acc : Root heap context context.acc
  | prev : Root heap context context.prev
  /-- A slot of the operand stack below its top. -/
  | operand {slots : Array Address} {index : Nat} {value : Address}
      (found : heap.get? context.stackSegment = some (.stack slots))
      (below : index < context.stackTop) (held : slots[index]? = some value) :
      Root heap context value
  | receiver {frame : Frame} (active : frame ∈ context.frames.list) : Root heap context frame.objp
  | sender {frame : Frame} (active : frame ∈ context.frames.list) : Root heap context frame.sendp
  /-- The segment whose code a frame runs. -/
  | code {frame : Frame} (active : frame ∈ context.frames.list) :
      Root heap context ⟨frame.pc.segment, 0⟩
  /-- The segment of a frame's local variables. -/
  | locals {frame : Frame} (active : frame ∈ context.frames.list) :
      Root heap context ⟨frame.locals, 0⟩
  | globals {id : SegmentId} (found : heap.globalsSegment? = some id) : Root heap context ⟨id, 0⟩
  /-- A script that somebody uses. -/
  | locked {id : SegmentId} {script : Script} (found : heap.get? id = some (.script script))
      (used : 0 < script.lockers) : Root heap context ⟨id, 0⟩

/-- The thing that the first address stands for holds a value. -/
inductive Holds (heap : Heap) : Address → Address → Prop where
  | property {id : SegmentId} {script : Script} {object : Object} {value : Address}
      (found : heap.get? id = some (.script script)) (defined : object ∈ script.objects)
      (held : value ∈ object.properties) : Holds heap ⟨id, 0⟩ value
  | ownLocal {id : SegmentId} {script : Script} {table : LocalsTable} {value : Address}
      (found : heap.get? id = some (.script script))
      (own : heap.get? script.localsSegment = some (.locals table))
      (held : value ∈ table.values) : Holds heap ⟨id, 0⟩ value
  | slot {id : SegmentId} {slots : Array Address} {value : Address}
      (found : heap.get? id = some (.stack slots)) (held : value ∈ slots) : Holds heap ⟨id, 0⟩ value
  | cloneProperty {entity value : Address} {pool : Pool Object} {clone : Object}
      (found : heap.get? entity.segment = some (.clones pool))
      (there : pool.get? entity.offset.toNat = some clone)
      (held : value ∈ clone.properties) : Holds heap entity value
  | origin {entity value : Address} {pool : Pool Object} {clone : Object}
      (found : heap.get? entity.segment = some (.clones pool))
      (there : pool.get? entity.offset.toNat = some clone)
      (held : clone.origin = some value) : Holds heap entity value
  | ends {entity value : Address} {pool : Pool ListEnds} {list : ListEnds}
      (found : heap.get? entity.segment = some (.lists pool))
      (there : pool.get? entity.offset.toNat = some list)
      (held : value = list.first ∨ value = list.last) : Holds heap entity value
  | node {entity value : Address} {pool : Pool Node} {node : Node}
      (found : heap.get? entity.segment = some (.nodes pool))
      (there : pool.get? entity.offset.toNat = some node)
      (held : value = node.pred ∨ value = node.succ ∨ value = node.key ∨ value = node.value) :
      Holds heap entity value

/-- The things that roots lead to, and those that the values they hold lead to, and so on. -/
inductive Reach (heap : Heap) (context : Context) : Address → Prop where
  | root {value entity : Address} (root : heap.Root context value)
      (leads : heap.LeadsTo value entity) : Reach heap context entity
  | held {holder value entity : Address} (reached : Reach heap context holder)
      (holds : heap.Holds holder value) (leads : heap.LeadsTo value entity) :
      Reach heap context entity

variable {heap : Heap} {context : Context} {address entity value : Address}

/-- Where an address leads, there is a segment, and no table of variables. -/
theorem LeadsTo.segment (sound : heap.Sound) (leads : heap.LeadsTo address entity) :
    ∃ segment, heap.get? entity.segment = some segment ∧ segment.kind ≠ .locals ∧
      (segment.kind.isPool = false → entity.offset = 0) := by
  -- A resident script is in memory.
  cases leads with
  | locals found placed =>
    obtain ⟨script, scriptAt, _⟩ := sound.script_of_resident placed
    exact ⟨_, scriptAt, by simp [Segment.kind], fun _ => rfl⟩
  | record found pool live =>
    refine ⟨_, found, ?_, fun noPool => by simp [pool] at noPool⟩
    intro same
    simp [same, SegmentKind.isPool] at pool
  | whole found noPool noLocals => exact ⟨_, found, noLocals, fun _ => rfl⟩

/-- Marking follows an address to the thing that it leads to. -/
theorem target?_eq_some (sound : heap.Sound) :
    heap.target? address = some entity ↔ heap.LeadsTo address entity := by
  simp only [target?, Option.filter_eq_some_iff]
  constructor
  · intro given
    obtain ⟨canonical, there⟩ := given
    unfold canonical? at canonical
    split at canonical
    · -- An empty place leads nowhere.
      simp at canonical
    · -- Variables are folded into the script that has them, if it is resident.
      rename_i table found
      obtain ⟨owner, placed, rfl⟩ := Option.map_eq_some_iff.mp canonical
      exact .locals found placed
    · rename_i segment noLocals found
      simp only [Option.some.injEq] at canonical
      subst canonical
      by_cases pool : segment.kind.isPool = true
      · -- In a pool, the address has to be that of a record.
        have same : segment.canonicalOffset address.offset = address.offset := by
          simp [Segment.canonicalOffset, pool]
        rw [same] at there ⊢
        refine .record found pool ?_
        simpa [isEntity, isValidAddress, isWholeSegment, kind?, found, pool] using there
      · -- Anywhere else the offset is forgotten.
        have same : segment.canonicalOffset address.offset = 0 := by
          simp [Segment.canonicalOffset, pool]
        rw [same]
        refine .whole found (by simpa using pool) ?_
        intro kind
        cases segment with
        | locals table => exact noLocals table rfl
        | _ => simp [Segment.kind] at kind
  · intro leads
    cases leads with
    | locals found placed =>
      obtain ⟨script, scriptAt, _⟩ := sound.script_of_resident placed
      refine ⟨by simp [canonical?, found, placed], ?_⟩
      simp [isEntity, isWholeSegment, kind?, scriptAt, Segment.kind, SegmentKind.isPool]
    | @record segment found pool live =>
      refine ⟨?_, by simp [isEntity, isValidAddress, found, live]⟩
      unfold canonical?
      rw [found]
      cases segment with
      | clones | lists | nodes | hunks => rfl
      | _ => simp [Segment.kind, SegmentKind.isPool] at pool
    | @whole segment found noPool noLocals =>
      refine ⟨?_, by simp [isEntity, isWholeSegment, kind?, found, noPool]⟩
      unfold canonical?
      rw [found]
      cases segment with
      | locals table => simp [Segment.kind] at noLocals
      | clones | lists | nodes | hunks => simp [Segment.kind, SegmentKind.isPool] at noPool
      | _ => rfl

/-- Only a location leads anywhere. -/
theorem LeadsTo.isPointer (sound : heap.Sound) (leads : heap.LeadsTo address entity) :
    address.isPointer = true := by
  -- Segment zero is empty.
  have nonzero : address.segment ≠ 0 := by
    cases leads with
    | locals found _ => exact sound.ne_zero found
    | record found _ _ => exact sound.ne_zero found
    | whole found _ _ => exact sound.ne_zero found
  simpa [Address.isPointer] using nonzero

/-- The scripts that the collector starts from are those that somebody uses. -/
theorem mem_lockedScripts (sound : heap.Sound) {id : SegmentId} :
    id ∈ heap.lockedScripts ↔
      ∃ script, heap.get? id = some (.script script) ∧ 0 < script.lockers := by
  simp only [lockedScripts, List.mem_filter, mem_segmentIds sound.bounded]
  constructor
  · intro given
    obtain ⟨_, used⟩ := given
    -- Only a segment that holds a script answers with one.
    unfold Heap.script at used
    split at used
    · rename_i script found
      exact ⟨script, found, by simpa [Except.toOption] using used⟩
    · simp [Except.toOption] at used
  · intro given
    obtain ⟨script, found, used⟩ := given
    refine ⟨⟨sound.ne_zero found, by simp [found]⟩, ?_⟩
    simp [Heap.script, found, Except.toOption, used]

/-- The stack slots that the collector starts from are those below the top. -/
theorem mem_operands :
    value ∈ (heap.stack context.stackSegment).toOption.elim []
        (fun slots => slots.toList.take context.stackTop) ↔
      ∃ slots index, heap.get? context.stackSegment = some (.stack slots) ∧
        index < context.stackTop ∧ slots[index]? = some value := by
  unfold Heap.stack
  split
  · rename_i slots found
    simp only [Except.toOption, Option.elim_some, found, List.mem_iff_getElem?,
      List.getElem?_take, Option.ite_none_right_eq_some]
    constructor
    · intro given
      obtain ⟨index, below, held⟩ := given
      exact ⟨slots, index, rfl, below, by simpa using held⟩
    · intro given
      obtain ⟨others, index, same, below, held⟩ := given
      simp only [Option.some.injEq, Segment.stack.injEq] at same
      subst same
      exact ⟨index, below, by simpa using held⟩
  · -- Without a stack there are no slots to start from.
    rename_i noStack
    simp only [Except.toOption, Option.elim_none, List.not_mem_nil, false_iff]
    intro given
    obtain ⟨slots, index, found, _⟩ := given
    exact noStack slots found

/-- The collector starts from the roots that are locations. -/
theorem mem_roots (sound : heap.Sound) :
    value ∈ heap.roots context ↔ value.isPointer = true ∧ heap.Root context value := by
  simp only [roots, List.mem_filter, List.mem_append, mem_operands, List.mem_flatMap,
    List.mem_map, mem_lockedScripts sound, List.mem_reverse, List.mem_cons, List.not_mem_nil,
    or_false, Option.mem_toList, frameRoots]
  constructor
  · intro given
    obtain ⟨listed, pointer⟩ := given
    refine ⟨pointer, ?_⟩
    -- The list of roots is taken apart in the order in which it is built.
    rcases listed with (((registers | ⟨slots, index, found, below, held⟩) | ⟨frame, active, part⟩) |
      ⟨id, found, rfl⟩) | ⟨id, ⟨script, found, used⟩, rfl⟩
    · rcases registers with rfl | rfl
      · exact .acc
      · exact .prev
    · exact .operand found below held
    · rcases part with ((rfl | rfl) | part) | part
      · exact .receiver active
      · exact .sender active
      · -- A frame that runs no code has no segment of code.
        split at part
        · simp only [List.mem_singleton] at part
          subst part
          exact .code active
        · simp at part
      · -- The same goes for its variables.
        split at part
        · simp at part
        · simp only [List.mem_singleton] at part
          subst part
          exact .locals active
    · exact .globals found
    · exact .locked found used
  · intro given
    obtain ⟨pointer, root⟩ := given
    refine ⟨?_, pointer⟩
    -- Each kind of root has its place in that list.
    cases root with
    | acc => exact .inl (.inl (.inl (.inl (.inl rfl))))
    | prev => exact .inl (.inl (.inl (.inl (.inr rfl))))
    | operand found below held => exact .inl (.inl (.inl (.inr ⟨_, _, found, below, held⟩)))
    | receiver active => exact .inl (.inl (.inr ⟨_, active, .inl (.inl (.inl rfl))⟩))
    | sender active => exact .inl (.inl (.inr ⟨_, active, .inl (.inl (.inr rfl))⟩))
    | code active =>
      exact .inl (.inl (.inr ⟨_, active, .inl (.inr (by simpa [Address.isPointer] using pointer))⟩))
    | locals active =>
      exact .inl (.inl (.inr ⟨_, active, .inr (by simpa [Address.isPointer] using pointer)⟩))
    | globals found => exact .inl (.inr ⟨_, found, rfl⟩)
    | locked found used => exact .inr ⟨_, ⟨_, found, used⟩, rfl⟩

/-- Marking lists what a thing holds. -/
theorem mem_contents (sound : heap.Sound) (leads : heap.LeadsTo address entity) :
    value ∈ heap.contents entity ↔ heap.Holds entity value := by
  obtain ⟨segment, found, noLocals, whole⟩ := leads.segment sound
  obtain ⟨id, offset⟩ := entity
  simp only at found whole
  unfold contents
  simp only [found]
  constructor
  · intro listed
    -- What is listed depends on the kind of the segment.
    cases segment with
    | script contents =>
      -- A script is one thing, under the address of its first byte.
      cases whole rfl
      rcases List.mem_append.mp listed with own | local_
      · obtain ⟨object, defined, held⟩ := List.mem_flatMap.mp own
        exact .property found (by simpa using defined) (by simpa using held)
      · unfold Heap.locals at local_
        split at local_
        · rename_i table tableAt
          exact .ownLocal found tableAt (by simpa [Except.toOption] using local_)
        · simp [Except.toOption] at local_
    | locals table =>
      -- No address leads to variables.
      simp [Segment.kind] at noLocals
    | stack slots =>
      cases whole rfl
      exact .slot found (by simpa using listed)
    | clones pool =>
      cases there : pool.get? offset.toNat with
      | none => simp [there] at listed
      | some clone =>
        simp only [there, Option.elim_some, List.mem_append, Array.mem_toList_iff,
          Option.mem_toList] at listed
        rcases listed with held | held
        · exact .cloneProperty found there held
        · exact .origin found there held
    | lists pool =>
      cases there : pool.get? offset.toNat with
      | none => simp [there] at listed
      | some ends => exact .ends found there (by simpa [there] using listed)
    | nodes pool =>
      cases there : pool.get? offset.toNat with
      | none => simp [there] at listed
      | some node => exact .node found there (by simpa [there] using listed)
    | hunks | dynmem | systemStrings => simp at listed
  · intro holds
    -- The holder is in the segment that was found, so that is the one that was listed.
    cases holds with
    | property foundToo defined held =>
      cases found.symm.trans foundToo
      refine List.mem_append.mpr (.inl (List.mem_flatMap.mpr
        ⟨_, ?_, Array.mem_toList_iff.mpr held⟩))
      exact Array.mem_toList_iff.mpr defined
    | ownLocal foundToo own held =>
      cases found.symm.trans foundToo
      refine List.mem_append.mpr (.inr ?_)
      simpa [Heap.locals, own, Except.toOption] using held
    | slot foundToo held =>
      cases found.symm.trans foundToo
      simpa using held
    | cloneProperty foundToo there held =>
      cases found.symm.trans foundToo
      simp [there, held]
    | origin foundToo there held =>
      cases found.symm.trans foundToo
      simp [there, held]
    | ends foundToo there held =>
      cases found.symm.trans foundToo
      simpa [there] using held
    | node foundToo there held =>
      cases found.symm.trans foundToo
      simpa [there] using held

end Heap

end AdventureVm
