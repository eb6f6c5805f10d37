import AdventureVm.Memory.Store
import AdventureVm.Resources
import AdventureVm.Script.Load

/-! Bringing scripts into memory, locking them and letting them go. -/

namespace AdventureVm

namespace Heap

/-- Remembers that a script is in a segment. -/
def setResident (heap : Heap) (number : UInt16) (id : SegmentId) : Heap :=
  { heap with residents := (number, id) :: heap.residents.filter (·.1 != number) }

/-- Remembers the classes of a script. -/
def registerClasses (heap : Heap) (script : Script) : Heap :=
  { heap with
    classes := (script.objects.filter (·.isClass)).foldl
      (fun classes object => classes.register object.species script.number object.pos)
      heap.classes }

/-- The segment holds a script that has locked the scripts of its superclasses. -/
def holdsLocks : Option Segment → Bool
  | some (.script script) => script.holdsSuperclasses
  | _ => false

/-- The number of scripts that have locked the scripts of their superclasses. -/
def holdingCount (heap : Heap) : Nat :=
  heap.segments.countP holdsLocks

/-- Replacing a script changes the number of holding scripts by what that script contributes. -/
theorem holdingCount_put {heap : Heap} {id : SegmentId} {before : Script} (after : Script)
    (found : heap.get? id = some (.script before)) :
    (heap.put id (some (.script after))).holdingCount + before.holdsSuperclasses.toNat =
      heap.holdingCount + after.holdsSuperclasses.toNat := by
  -- The place exists, so the count loses the old contribution and gains the new one.
  have inside : id.toNat < heap.segments.size := by
    by_cases inside : id.toNat < heap.segments.size
    · exact inside
    · simp [get?, Array.getElem?_eq_none (Nat.le_of_not_lt inside)] at found
  have occupied : heap.segments[id.toNat] = some (.script before) := by
    simpa [get?, Array.getElem?_eq_getElem inside] using found
  have counted : before.holdsSuperclasses = true → 0 < heap.segments.countP holdsLocks := by
    intro holds
    apply Array.countP_pos_iff.mpr
    exact ⟨_, Array.getElem_mem inside, by rw [occupied]; exact holds⟩
  simp only [holdingCount, put, Array.setIfInBounds, inside, dif_pos, Array.countP_set, occupied,
    holdsLocks]
  by_cases old : before.holdsSuperclasses = true
  · have positive := counted old
    by_cases new : after.holdsSuperclasses = true <;> simp [old, new] <;> omega
  · by_cases new : after.holdsSuperclasses = true <;> simp [old, new]

end Heap

namespace Store

/-- The heap resource that goes with a script; the first format has none. -/
def heapResource (version : Version) (resources : Resources) (number : UInt16) :
    Except Fault (Option Bytes) :=
  match version with
  | .sci0 => .ok none
  | .sci11 =>
    match resources.heap? number with
    | some heap => .ok (some heap)
    | none => .error (.scriptNotFound number)

/-- Gives a script its local variables, which have a segment of their own unless there are none. -/
def withLocals (script : Script) (locals : Array Address) : StoreM Script := do
  if locals.isEmpty then
    return script
  let localsSegment ← insert (.locals ⟨script.number, locals⟩)
  return { script with localsSegment }

/-- Loads the resources of a script into a place that is kept free for it. -/
def fillScript (id : SegmentId) (number : UInt16) (bytes : Bytes) (heap : Option Bytes) :
    StoreM Script := do
  let version ← StoreM.read (·.version)
  let (script, locals) ← StoreM.ofLogged (Script.load version number id bytes heap)
  withLocals script locals

/-- The segment of a script, which is loaded unless it is in memory; a failure leaves nothing. -/
def loadScript (resources : Resources) (number : UInt16) : StoreM SegmentId := do
  if let some id ← StoreM.read (·.scriptSegment? number) then
    return id
  let some bytes := resources.script? number | throw (.scriptNotFound number)
  let version ← StoreM.read (·.version)
  let heap ← StoreM.require fun _ => heapResource version resources number
  -- The place is taken before loading, because objects hold the segment they are in.
  let id ← insert (.script (.empty number))
  match ← StoreM.outcome (fillScript id number bytes heap) with
  | .error fault =>
    -- The table may have grown by the place, but an empty place is like none.
    StoreM.change (·.put id none)
    throw fault
  | .ok script =>
    StoreM.note .debug (s!"loaded script {number} into segment {id} " ++
      s!"({script.size} bytes, {script.objects.size} objects)")
    StoreM.change fun heap =>
      ((heap.registerClasses script).put id (some (.script script))).setResident number id
    return id

/-- The scripts other than a given one that define superclasses of a script's objects, each once. -/
def owners (heap : Heap) (number : UInt16) (script : Script) : List UInt16 :=
  ((script.superclasses.filterMap heap.classes.script?).filter (· != number)).eraseDups

/-- The script with one user less; the last one marks it for the collector. -/
def unlocked (script : Script) : Script :=
  if script.lockers ≤ 1 then { script.unlock.mark true with holdsSuperclasses := false }
  else script.unlock

/--
Drops one lock on each script of a list, in order.

A script that loses its last lock also drops the locks that it took on the scripts of its
superclasses, before the rest of the list is looked at.
-/
def release (store : Store) : List UInt16 → Store
  | [] => store
  | number :: rest =>
    match store.heap.scriptSegment? number with
    | none =>
      (store.note .warn s!"uninstantiate of script {number} which is not loaded").release rest
    | some id =>
      match _found : store.heap.get? id with
      | some (.script script) =>
        -- A script that waits for the collector already has nothing to give back.
        if script.lockers = 0 ∧ script.markedDeleted then
          store.release rest
        else
          let changed := store.mapHeap (·.put id (some (.script (unlocked script))))
          if _last : script.lockers ≤ 1 then
            let noted := changed.note .debug s!"script {number} marked for deletion"
            if _holds : script.holdsSuperclasses then
              noted.release (owners store.heap number script ++ rest)
            else noted.release rest
          else changed.release rest
      | _ => store.release rest
termination_by numbers => (store.heap.holdingCount, numbers.length)
decreasing_by
  all_goals simp_wf
  · exact Prod.Lex.right _ (by omega)
  · exact Prod.Lex.right _ (by omega)
  · have counted := Heap.holdingCount_put (unlocked script) _found
    simp only [unlocked, _last, if_true, _holds, Bool.toNat_true, Bool.toNat_false] at counted
    exact Prod.Lex.left _ _ (by simp [note, mapHeap, unlocked, _last]; omega)
  · have counted := Heap.holdingCount_put (unlocked script) _found
    simp only [unlocked, _last, if_true, Bool.eq_false_iff.mpr _holds, Bool.toNat_false] at counted
    have same : (store.heap.put id (some (.script (unlocked script)))).holdingCount =
        store.heap.holdingCount := by simp [unlocked, _last]; omega
    simp only [note, mapHeap, same]
    exact Prod.Lex.right _ (by omega)
  · have counted := Heap.holdingCount_put (unlocked script) _found
    have same : (store.heap.put id (some (.script (unlocked script)))).holdingCount =
        store.heap.holdingCount := by simp [unlocked, _last, Script.unlock] at counted ⊢; omega
    simp only [mapHeap, same]
    exact Prod.Lex.right _ (by omega)
  · exact Prod.Lex.right _ (by omega)

/-- Drops one lock on a script. -/
def uninstantiateScript (number : UInt16) : StoreM Unit :=
  modify fun store => store.release [number]

/--
Locks the scripts of superclasses one after the other.

The answer is the failure to lock one of them, with those that were locked before it.
-/
def lockOwners (lock : UInt16 → StoreM SegmentId) (number : UInt16) :
    List UInt16 → List UInt16 → StoreM (Option (Fault × List UInt16))
  | [], _ => return none
  | species :: rest, locked => do
    match ← StoreM.read (·.classes.script? species) with
    | none =>
      StoreM.note .warn s!"script {number}: superclass species {species} has no known script"
      lockOwners lock number rest locked
    | some owner =>
      -- Each script is locked once, however many superclasses it defines.
      if owner = number ∨ owner ∈ locked then
        lockOwners lock number rest locked
      else
        match ← StoreM.outcome (lock owner) with
        | .ok _ => lockOwners lock number rest (locked ++ [owner])
        | .error fault => return some (fault, locked)

/-- Takes back the lock on a script whose superclasses could not all be locked. -/
def rollBack (resident : Bool) (id : SegmentId) (locked : List UInt16) : StoreM Unit := do
  locked.forM uninstantiateScript
  if resident then
    let _ ← StoreM.require (·.script id)
    StoreM.change (·.modifyScript id fun script =>
      { script.unlock with
        holdsSuperclasses := false
        markedDeleted := script.markedDeleted || script.unlock.lockers == 0 })
  else
    free id

/--
Locks a script, which is loaded if need be, and the scripts of its superclasses.

The bound is on how deep superclasses lead from script to script. A script is entered only while it
does not hold its superclasses, and it holds them from then on, so no chain is longer than there are
script numbers.
-/
def instantiateWithin (resources : Resources) : Nat → UInt16 → StoreM SegmentId
  | 0, number => throw (.scriptNotFound number)
  | bound + 1, number => do
    let resident ← StoreM.read fun heap => (heap.scriptSegment? number).isSome
    let id ← loadScript resources number
    let script ← StoreM.require (·.script id)
    -- The flag is set before the superclasses are followed, so a cycle ends here.
    StoreM.change (·.modifyScript id fun script =>
      { script.lock.mark false with holdsSuperclasses := true })
    if script.holdsSuperclasses then
      return id
    match ← lockOwners (instantiateWithin resources bound) number script.superclasses [] with
    | none => return id
    | some (fault, locked) =>
      -- The locks of the superclasses go first, then the script itself.
      rollBack resident id locked
      throw fault

/-- Locks a script, which is loaded if need be, and the scripts of its superclasses. -/
def instantiateScript (resources : Resources) (number : UInt16) : StoreM SegmentId :=
  instantiateWithin resources (segmentLimit + 1) number

/-- The segment of a script, which is locked if it first has to be brought into memory. -/
def ensureScript (resources : Resources) (number : UInt16) : StoreM SegmentId := do
  match ← StoreM.read (·.scriptSegment? number) with
  | some id => return id
  | none => instantiateScript resources number

/-- Reads the object record at an offset of a script in memory and answers its position. -/
def instantiateObject (id : SegmentId) (offset : UInt16) : StoreM Nat := do
  let script ← StoreM.require (·.script id)
  let version ← StoreM.read (·.version)
  let (index, extended) ← StoreM.require fun _ => script.instantiateObject version offset
  StoreM.change (·.put id (some (.script extended)))
  if let some object := extended.objects[index]? then
    if object.isClass then
      StoreM.change fun heap =>
        { heap with classes := heap.classes.register object.species script.number object.pos }
  return index

end Store

end AdventureVm
