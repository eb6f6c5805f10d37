import AdventureVm.Memory.Residency
import AdventureVm.Proofs.Loader.Continuing
import AdventureVm.Proofs.Memory.InPlace
import AdventureVm.Proofs.Memory.Locking
import AdventureVm.Proofs.Memory.Spacing

/-!
Two memories of which one may have an empty place more at the end of its table.

Work on memory comes to the same in both of them, and leaves two such memories behind.
-/

namespace AdventureVm

namespace Heap

variable {heap : Heap} {id : SegmentId}

/-- A change that passes by an empty place at the end of the table. -/
structure PassesBy (step : Heap → Heap) (heap : Heap) : Prop where
  framed : (step heap).Framed
  size : (step heap).segments.size = heap.segments.size
  spaced : step heap.spaced = (step heap).spaced

/-- One change after the other passes by the empty place when each does. -/
theorem PassesBy.andThen {step next : Heap → Heap} (here : PassesBy step heap)
    (further : PassesBy next (step heap)) : PassesBy (fun heap => next (step heap)) heap where
  framed := further.framed
  size := further.size.trans here.size
  spaced := by
    rw [here.spaced]
    exact further.spaced

namespace Framed

/-- Memory stays within bounds when the table keeps its size and no resident is added. -/
theorem of_same (framed : heap.Framed) {after : Heap}
    (size : after.segments.size = heap.segments.size)
    (residents : ∀ entry ∈ after.residents, entry ∈ heap.residents) : after.Framed where
  opened := by
    rw [size]
    exact framed.opened
  bounded := by
    rw [size]
    exact framed.bounded
  -- Residents were residents before, in places of a table of this size.
  resident number id member := by
    rw [size]
    exact framed.resident number id (residents _ member)

/-- A new segment in the next place keeps the table within its numbers. -/
theorem insert (framed : heap.Framed) (next : heap.nextId? = some id) (segment : Segment) :
    (heap.insert id segment).Framed := by
  -- The table grows by one place at most, and no resident is added.
  obtain ⟨atEnd, small, _, _⟩ := nextId?_spec framed.opened next
  obtain ⟨grown, bounded⟩ := size_insert segment small atEnd framed.bounded
  refine ⟨Nat.lt_of_lt_of_le framed.opened grown, bounded, ?_⟩
  intro number place member
  rw [residents_insert] at member
  exact Nat.lt_of_lt_of_le (framed.resident number place member) grown

/-- Changing a segment in place passes by the empty place. -/
theorem modify (framed : heap.Framed) (id : SegmentId) (change : Segment → Segment) :
    PassesBy (·.modify id change) heap where
  -- Neither the size of the table nor the residents change.
  framed := framed.of_same (by simp [Heap.modify]) fun _ member => member
  size := by simp [Heap.modify]
  spaced := modify_spaced change

/-- Replacing what is in a place of the table passes by the empty place. -/
theorem put (framed : heap.Framed) (inside : id.toNat < heap.segments.size)
    (contents : Option Segment) : PassesBy (·.put id contents) heap where
  -- Neither the size of the table nor the residents change.
  framed := framed.of_same (by simp [Heap.put]) fun _ member => member
  size := by simp [Heap.put]
  spaced := put_spaced inside contents

/-- Changing the known classes passes by the empty place. -/
theorem classes (framed : heap.Framed) (change : ClassTable → ClassTable) :
    PassesBy (fun heap => { heap with classes := change heap.classes }) heap where
  -- Neither the table nor the residents change.
  framed := framed.of_same rfl fun _ member => member
  size := rfl
  spaced := rfl

/-- Changing the current pools passes by the empty place. -/
theorem pools (framed : heap.Framed) (change : CurrentPools → CurrentPools) :
    PassesBy (fun heap => { heap with pools := change heap.pools }) heap where
  -- Neither the table nor the residents change.
  framed := framed.of_same rfl fun _ member => member
  size := rfl
  spaced := rfl

/-- Remembering a script in a place of the table passes by the empty place. -/
theorem setResident (framed : heap.Framed) (number : UInt16)
    (inside : id.toNat < heap.segments.size) : PassesBy (·.setResident number id) heap where
  framed := by
    refine ⟨framed.opened, framed.bounded, ?_⟩
    intro other place member
    -- The new entry names a place of the table, and the old ones did before.
    rcases List.mem_cons.mp member with same | older
    · cases same
      exact inside
    · exact framed.resident other place (List.mem_of_mem_filter older)
  size := rfl
  spaced := rfl

/-- Forgetting a script passes by the empty place. -/
theorem forgetScript (framed : heap.Framed) (number : UInt16) (id : SegmentId) :
    PassesBy (·.forgetScript number id) heap where
  framed := by
    refine framed.of_same rfl ?_
    intro entry member
    simp only [Heap.forgetScript] at member
    -- Forgetting takes entries away, if it changes anything.
    split at member
    · exact List.mem_of_mem_filter member
    · exact member
  size := rfl
  spaced := rfl

/-- Forgetting a current pool passes by the empty place. -/
theorem forgetPool (framed : heap.Framed) (kind : SegmentKind) (id : SegmentId) :
    PassesBy (·.forgetPool kind id) heap := by
  -- Whether the pool is forgotten is decided by the current pools alone.
  have same : ∀ heap : Heap, heap.forgetPool kind id = { heap with
      pools := if heap.pools.get kind = id then heap.pools.set kind 0 else heap.pools } :=
    fun heap => Store.forgetPool_eq heap kind id
  simp only [same]
  exact framed.pools fun pools => if pools.get kind = id then pools.set kind 0 else pools

end Framed

end Heap

/-- A question about memory leaves it as it is. -/
theorem StoreM.run_require {α : Type} (query : Heap → Except Fault α) (store : Store) :
    (StoreM.require query).run store = (query store.heap, store) :=
  (StoreM.leads_require query store fun outcome after =>
    (outcome, after) = (query store.heap, store)).mpr rfl

/-- Work whose failure is answered comes to the same if the work does. -/
theorem RunsAlike.outcome {α : Type} {relation : Store → Store → Prop} {work : StoreM α}
    {first second : Store} (here : RunsAlike relation work.run first second) :
    RunsAlike relation (StoreM.outcome work).run first second :=
  ⟨congrArg Except.ok here.1, here.2⟩

namespace Store

/-- Two memories with the same contents, and with journals that go on alike. -/
structure Twins (front back : Journal) (first second : Store) : Prop where
  framed : first.heap.Framed
  /-- The second may have an empty place more. -/
  heaps : second.heap = first.heap ∨
    first.heap.segments.size < segmentLimit ∧ second.heap = first.heap.spaced
  journals : Journal.Continue front back first.journal second.journal

namespace Twins

variable {front back : Journal} {first second : Store} {α : Type}

/-- What does not show the empty place is the same of both. -/
theorem same (twins : Twins front back first second) (query : Heap → α)
    (blind : ∀ heap : Heap, query heap.spaced = query heap) :
    query second.heap = query first.heap := by
  -- Twins have the same memory, or differ by the empty place that the query does not show.
  rcases twins.heaps with same | ⟨_, spaced⟩
  · rw [same]
  · rw [spaced, blind]

/-- Both have the same in each place. -/
theorem get? (twins : Twins front back first second) (id : SegmentId) :
    second.heap.get? id = first.heap.get? id :=
  twins.same (·.get? id) fun _ => Heap.get?_spaced

/-- Both have the same residents. -/
theorem scriptSegment? (twins : Twins front back first second) (number : UInt16) :
    second.heap.scriptSegment? number = first.heap.scriptSegment? number :=
  twins.same (·.scriptSegment? number) fun _ => rfl

/-- A change that passes by the empty place leaves twins. -/
theorem mapHeap (twins : Twins front back first second) {step : Heap → Heap}
    (passes : Heap.PassesBy step first.heap) :
    Twins front back (first.mapHeap step) (second.mapHeap step) where
  framed := passes.framed
  heaps := by
    -- The same memory changes in the same way; else the change passes by the empty place.
    rcases twins.heaps with same | ⟨room, spaced⟩
    · left
      exact congrArg step same
    · right
      simp only [heap_mapHeap, passes.size, spaced, passes.spaced]
      exact ⟨room, trivial⟩
  journals := twins.journals

/-- A record leaves twins. -/
theorem noted (twins : Twins front back first second) (level : Level) (text : String) :
    Twins front back (first.note level text) (second.note level text) :=
  ⟨twins.framed, twins.heaps, twins.journals.push _⟩

/-- A question that does not show the empty place gets the same answer. -/
theorem read (twins : Twins front back first second) {query : Heap → α}
    (blind : ∀ heap : Heap, query heap.spaced = query heap) :
    RunsAlike (Twins front back) (StoreM.read query).run first second :=
  ⟨congrArg Except.ok (twins.same query blind), twins⟩

/-- A question that may fail gets the same answer, or fails in the same way. -/
theorem require (twins : Twins front back first second) {query : Heap → Except Fault α}
    (blind : ∀ heap : Heap, query heap.spaced = query heap) :
    RunsAlike (Twins front back) (StoreM.require query).run first second := by
  -- The query does not show the empty place, so the answers are the same.
  refine .of_runs (StoreM.run_require query first) ?_ twins
  rw [← twins.same query blind]
  exact StoreM.run_require query second

/-- A record is added to both journals. -/
theorem note (twins : Twins front back first second) (level : Level) (text : String) :
    RunsAlike (Twins front back) (StoreM.note level text).run first second :=
  ⟨rfl, twins.noted level text⟩

/-- Records are added to both journals. -/
theorem record (twins : Twins front back first second) (records : List Record) :
    RunsAlike (Twins front back) (StoreM.record records).run first second := by
  refine ⟨rfl, twins.framed, twins.heaps, ?_⟩
  -- Journals are arrays, to which a list is added by its elements.
  have listed : ∀ journal : Journal, journal ++ records = journal ++ records.toArray := by
    intro journal
    apply Array.toList_inj.mp
    simp
  show Journal.Continue front back (first.journal ++ records) (second.journal ++ records)
  rw [listed, listed]
  exact twins.journals.append _

/-- A change that passes by the empty place is made in both. -/
theorem change (twins : Twins front back first second) {step : Heap → Heap}
    (passes : Heap.PassesBy step first.heap) :
    RunsAlike (Twins front back) (StoreM.change step).run first second :=
  ⟨rfl, twins.mapHeap passes⟩

/-- A change that is refused in both fails in the same way. -/
theorem attempt_error (twins : Twins front back first second) {step : Heap → Except Fault Heap}
    {fault : Fault} (refused : step first.heap = .error fault)
    (refusedToo : step second.heap = .error fault) :
    RunsAlike (Twins front back) (StoreM.attempt step).run first second := by
  -- Both runs are known, and both leave their store.
  have failed : ∀ {store}, step store.heap = .error fault →
      (StoreM.attempt step).run store = (.error fault, store) := by
    intro store refused
    refine (StoreM.leads_attempt step store fun outcome after =>
      (outcome, after) = (.error fault, store)).mpr ?_
    rw [refused]
  exact .of_runs (failed refused) (failed refusedToo) twins

/-- A change that is possible in both is made in both. -/
theorem attempt_ok (twins : Twins front back first second) {step : Heap → Except Fault Heap}
    {change : Heap → Heap} (passes : Heap.PassesBy change first.heap)
    (made : step first.heap = .ok (change first.heap))
    (madeToo : step second.heap = .ok (change second.heap)) :
    RunsAlike (Twins front back) (StoreM.attempt step).run first second := by
  -- The work is what it does to one memory, and then both are changed alike.
  have worked : ∀ {store}, step store.heap = .ok (change store.heap) →
      (StoreM.attempt step).run store = (.ok (), store.mapHeap change) := by
    intro store made
    refine (StoreM.leads_attempt step store fun outcome after =>
      (outcome, after) = (.ok (), store.mapHeap change)).mpr ?_
    rw [made]
    rfl
  exact .of_runs (worked made) (worked madeToo) (twins.mapHeap passes)

/-- Work that only keeps a journal comes to the same if what was recorded makes no difference. -/
theorem ofLogged (twins : Twins front back first second) {work : Logged α}
    (unswayed : RunsAlike (Journal.Continue front back) work.run first.journal second.journal) :
    RunsAlike (Twins front back) (StoreM.ofLogged work).run first second := by
  -- The work sees the journal alone, and its outcome does not depend on what is in there.
  have logged : ∀ store : Store, (StoreM.ofLogged work).run store =
      ((work.run store.journal).1, { store with journal := (work.run store.journal).2 }) :=
    fun store => (StoreM.leads_ofLogged work store fun outcome after => (outcome, after) =
      ((work.run store.journal).1, { store with journal := (work.run store.journal).2 })).mpr rfl
  obtain ⟨same, journals⟩ := unswayed
  have twinsToo : Twins front back { first with journal := (work.run first.journal).2 }
      { second with journal := (work.run second.journal).2 } :=
    ⟨twins.framed, twins.heaps, journals⟩
  refine .of_runs (logged first) ((logged second).trans ?_) twinsToo
  exact congrArg (·, _) same

/-- A new segment in the next place makes up for the empty place, or comes before it. -/
theorem inserted (twins : Twins front back first second) {id : SegmentId}
    (next : first.heap.nextId? = some id) (segment : Segment) :
    Twins front back (first.mapHeap (·.insert id segment))
      (second.mapHeap (·.insert id segment)) := by
  refine ⟨twins.framed.insert next segment, ?_, twins.journals⟩
  simp only [heap_mapHeap]
  -- The empty place is filled by the segment, or it is still there behind it.
  rcases twins.heaps with same | ⟨room, spaced⟩
  · rw [same]
    exact .inl rfl
  · rw [spaced]
    rcases Heap.insert_spaced segment twins.framed next with filled | ⟨size, before⟩
    · exact .inl filled
    · rw [size]
      exact .inr ⟨room, before⟩

/-- A new segment goes to the same place in both. -/
theorem insert (twins : Twins front back first second) (segment : Segment) :
    RunsAlike (Twins front back) (Store.insert segment).run first second := by
  have next : second.heap.nextId? = first.heap.nextId? := by
    rcases twins.heaps with same | ⟨room, spaced⟩
    · rw [same]
    · rw [spaced, Heap.nextId?_spaced twins.framed room]
  -- The number that is given out next is the one thing that could have shown the empty place.
  have asked : RunsAlike (Twins front back) (StoreM.read Heap.nextId?).run first second :=
    ⟨congrArg Except.ok next, twins⟩
  apply asked.andThen
  intro found after afterToo ran twins
  cases found with
  | none => exact ⟨rfl, twins⟩
  | some id =>
    obtain rfl : first = after := congrArg Prod.snd ran
    have place : first.heap.nextId? = some id := Except.ok.inj (congrArg Prod.fst ran)
    exact ⟨rfl, (twins.noted _ _).inserted place segment⟩

end Twins

section Segments

variable {front back : Journal} {first second : Store}

/-- What is in a place decides how it is taken out of memory. -/
theorem deallocate_occupied {store : Store} {id : SegmentId} {segment : Segment}
    (found : store.heap.get? id = some segment) :
    store.deallocate id =
      let emptied := (store.mapHeap (·.put id none)).note .debug
        s!"freeing {segment.kind.name} segment {id}"
      match segment with
      | .script script =>
        if script.localsSegment = 0 then
          (.ok (), emptied.mapHeap (·.forgetScript script.number id))
        else
          match emptied.deallocate script.localsSegment with
          | (.ok (), store) => (.ok (), store.mapHeap (·.forgetScript script.number id))
          | (.error fault, store) => (.error fault, store)
      | other =>
        if other.kind.isPool then (.ok (), emptied.mapHeap (·.forgetPool other.kind id))
        else (.ok (), emptied) := by
  -- The place is known to be occupied, so only one branch is left.
  rw [deallocate]
  split
  · rename_i absent
    rw [found] at absent
    cases absent
  · rename_i occupant present
    rw [found, Option.some.injEq] at present
    subst present
    cases segment <;> rfl

/-- An occupied place is emptied in both. -/
theorem Twins.vacated (twins : Twins front back first second) {id : SegmentId} {segment : Segment}
    (found : first.heap.get? id = some segment) (level : Level) (text : String) :
    Twins front back ((first.mapHeap (·.put id none)).note level text)
      ((second.mapHeap (·.put id none)).note level text) :=
  (twins.mapHeap (twins.framed.put (Heap.inside_of_get? found) none)).noted level text

/-- Taking a segment out of memory comes to the same in both. -/
theorem deallocate_twins (first second : Store) (id : SegmentId)
    (twins : Twins front back first second) :
    (second.deallocate id).1 = (first.deallocate id).1 ∧
      Twins front back (first.deallocate id).2 (second.deallocate id).2 := by
  -- Both have the same in the place, so both take the same branch.
  cases found : first.heap.get? id with
  | none =>
    rw [deallocate_none found, deallocate_none (twins.get? id ▸ found)]
    exact ⟨rfl, twins⟩
  | some segment =>
    rw [deallocate_occupied found, deallocate_occupied (twins.get? id ▸ found)]
    have vacated := twins.vacated found .debug s!"freeing {segment.kind.name} segment {id}"
    cases segment with
    | script script =>
      simp only
      split
      · exact ⟨rfl, vacated.mapHeap (vacated.framed.forgetScript script.number id)⟩
      · -- The variables are taken out of two memories that are still twins.
        obtain ⟨same, left⟩ := deallocate_twins _ _ script.localsSegment vacated
        generalize Store.deallocate _ script.localsSegment = endedToo at same left ⊢
        generalize Store.deallocate _ script.localsSegment = ended at same left ⊢
        obtain ⟨outcome, after⟩ := ended
        obtain ⟨outcomeToo, afterToo⟩ := endedToo
        obtain rfl : outcomeToo = outcome := same
        cases outcomeToo with
        | ok value => exact ⟨rfl, left.mapHeap (left.framed.forgetScript script.number id)⟩
        | error fault => exact ⟨rfl, left⟩
    | _ =>
      simp only
      split
      · exact ⟨rfl, vacated.mapHeap (vacated.framed.forgetPool _ id)⟩
      · exact ⟨rfl, vacated⟩
termination_by first.heap.liveCount
decreasing_by exact Heap.liveCount_put_none found

/-- Dropping locks comes to the same in both. -/
theorem release_twins (first : Store) (numbers : List UInt16) (second : Store)
    (twins : Twins front back first second) :
    Twins front back (first.release numbers) (second.release numbers) := by
  -- The second memory takes the same branches, because it has the same scripts.
  fun_induction release first numbers generalizing second with
  | case1 store =>
    simpa only [release] using twins
  | case2 store number rest absent ih =>
    rw [release, twins.scriptSegment?, absent]
    exact ih _ (twins.noted _ _)
  | case3 store number rest id placed script found idle ih =>
    rw [release_resident (twins.scriptSegment? number ▸ placed) (twins.get? id ▸ found),
      if_pos idle]
    exact ih _ twins
  | case4 store number rest id placed script found busy changed last noted holds ih =>
    -- The owners come from the classes and the script, which are the same in both.
    have owned : owners second.heap number script = owners store.heap number script :=
      twins.same (owners · number script) fun _ => rfl
    rw [release_resident (twins.scriptSegment? number ▸ placed) (twins.get? id ▸ found),
      if_neg busy]
    simp only [last, holds, if_true, owned]
    exact ih _ ((twins.mapHeap (twins.framed.put (Heap.inside_of_get? found) _)).noted _ _)
  | case5 store number rest id placed script found busy changed last noted free ih =>
    rw [release_resident (twins.scriptSegment? number ▸ placed) (twins.get? id ▸ found),
      if_neg busy]
    simp only [last, free, if_true]
    exact ih _ ((twins.mapHeap (twins.framed.put (Heap.inside_of_get? found) _)).noted _ _)
  | case6 store number rest id placed script found busy changed more ih =>
    rw [release_resident (twins.scriptSegment? number ▸ placed) (twins.get? id ▸ found),
      if_neg busy]
    simp only [more, if_false]
    exact ih _ (twins.mapHeap (twins.framed.put (Heap.inside_of_get? found) _))
  | case7 store number rest id placed elsewhere ih =>
    rw [release]
    simp only [twins.scriptSegment?, placed]
    split
    · rename_i script found
      exact absurd (twins.get? id ▸ found) (elsewhere script)
    · exact ih _ twins

end Segments

end Store

end AdventureVm
