import AdventureVm.Proofs.Memory.Locking

/-!
The courses that locking and unlocking take, told step by step and without a bound.

A course is finite. It names the scripts whose superclasses are gone through, in order.
-/

namespace AdventureVm

/-- The memory in which a script is locked once more and holds its superclasses. -/
def Store.withHolder (store : Store) (id : SegmentId) : Store :=
  store.mapHeap (·.modifyScript id fun script =>
    { script.lock.mark false with holdsSuperclasses := true })

mutual

/--
The course of locking a script.

It names the scripts that come to hold their superclasses, and tells how it ends and what it leaves.
-/
inductive LockCourse (resources : Resources) :
    Store → UInt16 → List UInt16 → Except Fault SegmentId → Store → Prop where
  /-- The script could not be loaded. -/
  | unloaded {store after : Store} {number : UInt16} {fault : Fault}
      (load : (Store.loadScript resources number).run store = (.error fault, after)) :
      LockCourse resources store number [] (.error fault) after
  /-- The script counts as resident, but it is not there. -/
  | missing {store loaded : Store} {number : UInt16} {id : SegmentId} {fault : Fault}
      (load : (Store.loadScript resources number).run store = (.ok id, loaded))
      (missing : loaded.heap.script id = .error fault) :
      LockCourse resources store number [] (.error fault) loaded
  /-- The script holds its superclasses already. -/
  | holding {store loaded : Store} {number : UInt16} {id : SegmentId} {script : Script}
      (load : (Store.loadScript resources number).run store = (.ok id, loaded))
      (found : loaded.heap.script id = .ok script) (holds : script.holdsSuperclasses = true) :
      LockCourse resources store number [] (.ok id) (loaded.withHolder id)
  /-- The scripts of all its superclasses were locked. -/
  | locked {store loaded after : Store} {number : UInt16} {id : SegmentId} {script : Script}
      {entered : List UInt16}
      (load : (Store.loadScript resources number).run store = (.ok id, loaded))
      (found : loaded.heap.script id = .ok script) (free : script.holdsSuperclasses = false)
      (owners : OwnersCourse resources number (loaded.withHolder id) script.superclasses [] entered
        none after) :
      LockCourse resources store number (number :: entered) (.ok id) after
  /-- The script of a superclass could not be locked, and what was done so far was taken back. -/
  | refused {store loaded between after : Store} {number : UInt16} {id : SegmentId}
      {script : Script} {entered taken : List UInt16} {fault : Fault}
      (load : (Store.loadScript resources number).run store = (.ok id, loaded))
      (found : loaded.heap.script id = .ok script) (free : script.holdsSuperclasses = false)
      (owners : OwnersCourse resources number (loaded.withHolder id) script.superclasses [] entered
        (some (fault, taken)) between)
      (undone : (Store.rollBack (store.heap.scriptSegment? number).isSome id taken).run between =
        (.ok (), after)) :
      LockCourse resources store number (number :: entered) (.error fault) after

/-- The course of locking the scripts of superclasses one after the other. -/
inductive OwnersCourse (resources : Resources) : UInt16 → Store → List UInt16 → List UInt16 →
    List UInt16 → Option (Fault × List UInt16) → Store → Prop where
  | done {number : UInt16} {store : Store} {taken : List UInt16} :
      OwnersCourse resources number store [] taken [] none store
  /-- The species is that of no known script. -/
  | unknown {number species : UInt16} {store after : Store} {rest taken entered : List UInt16}
      {ended : Option (Fault × List UInt16)}
      (unknown : store.heap.classes.script? species = none)
      (others : OwnersCourse resources number (store.note .warn
        s!"script {number}: superclass species {species} has no known script") rest taken entered
        ended after) :
      OwnersCourse resources number store (species :: rest) taken entered ended after
  /-- The script of the species is the one that is locked, or was locked for it before. -/
  | passed {number species owner : UInt16} {store after : Store} {rest taken entered : List UInt16}
      {ended : Option (Fault × List UInt16)}
      (known : store.heap.classes.script? species = some owner)
      (again : owner = number ∨ owner ∈ taken)
      (others : OwnersCourse resources number store rest taken entered ended after) :
      OwnersCourse resources number store (species :: rest) taken entered ended after
  | locked {number species owner : UInt16} {store between after : Store} {id : SegmentId}
      {rest taken first entered : List UInt16} {ended : Option (Fault × List UInt16)}
      (known : store.heap.classes.script? species = some owner)
      (fresh : ¬ (owner = number ∨ owner ∈ taken))
      (lock : LockCourse resources store owner first (.ok id) between)
      (others : OwnersCourse resources number between rest (taken ++ [owner]) entered ended after) :
      OwnersCourse resources number store (species :: rest) taken (first ++ entered) ended after
  | refused {number species owner : UInt16} {store after : Store} {rest taken entered : List UInt16}
      {fault : Fault} (known : store.heap.classes.script? species = some owner)
      (fresh : ¬ (owner = number ∨ owner ∈ taken))
      (lock : LockCourse resources store owner entered (.error fault) after) :
      OwnersCourse resources number store (species :: rest) taken entered (some (fault, taken))
        after

end

/-- The memory in which one lock on a script is dropped. -/
def Store.withUnlocked (store : Store) (id : SegmentId) (script : Script) : Store :=
  store.mapHeap (·.put id (some (.script (Store.unlocked script))))

/-- The memory in which the last lock on a script is dropped. -/
def Store.withMarked (store : Store) (number : UInt16) (id : SegmentId) (script : Script) : Store :=
  (store.withUnlocked id script).note .debug s!"script {number} marked for deletion"

/--
The course of dropping one lock on each script of a list, in order.

It names the scripts that give back the locks on the scripts of their superclasses, and tells what
it leaves.
-/
inductive UnlockCourse : Store → List UInt16 → List UInt16 → Store → Prop where
  | done {store : Store} : UnlockCourse store [] [] store
  /-- The script does not count as resident. -/
  | absent {store after : Store} {number : UInt16} {rest entered : List UInt16}
      (absent : store.heap.scriptSegment? number = none)
      (others : UnlockCourse (store.note .warn
        s!"uninstantiate of script {number} which is not loaded") rest entered after) :
      UnlockCourse store (number :: rest) entered after
  /-- The script counts as resident, but it is not there. -/
  | missing {store after : Store} {number : UInt16} {id : SegmentId} {rest entered : List UInt16}
      (placed : store.heap.scriptSegment? number = some id)
      (missing : ∀ script, store.heap.get? id ≠ some (.script script))
      (others : UnlockCourse store rest entered after) :
      UnlockCourse store (number :: rest) entered after
  /-- The script waits for the collector already. -/
  | waiting {store after : Store} {number : UInt16} {id : SegmentId} {script : Script}
      {rest entered : List UInt16} (placed : store.heap.scriptSegment? number = some id)
      (found : store.heap.get? id = some (.script script))
      (waiting : script.lockers = 0 ∧ script.markedDeleted = true)
      (others : UnlockCourse store rest entered after) :
      UnlockCourse store (number :: rest) entered after
  /-- The script has other locks. -/
  | kept {store after : Store} {number : UInt16} {id : SegmentId} {script : Script}
      {rest entered : List UInt16} (placed : store.heap.scriptSegment? number = some id)
      (found : store.heap.get? id = some (.script script))
      (busy : ¬ (script.lockers = 0 ∧ script.markedDeleted = true)) (more : 1 < script.lockers)
      (others : UnlockCourse (store.withUnlocked id script) rest entered after) :
      UnlockCourse store (number :: rest) entered after
  /-- The script loses its last lock, and has no locks to give back. -/
  | marked {store after : Store} {number : UInt16} {id : SegmentId} {script : Script}
      {rest entered : List UInt16} (placed : store.heap.scriptSegment? number = some id)
      (found : store.heap.get? id = some (.script script))
      (busy : ¬ (script.lockers = 0 ∧ script.markedDeleted = true)) (last : script.lockers ≤ 1)
      (free : script.holdsSuperclasses = false)
      (others : UnlockCourse (store.withMarked number id script) rest entered after) :
      UnlockCourse store (number :: rest) entered after
  /-- The script loses its last lock, and gives back those on the scripts of its superclasses. -/
  | released {store after : Store} {number : UInt16} {id : SegmentId} {script : Script}
      {rest entered : List UInt16} (placed : store.heap.scriptSegment? number = some id)
      (found : store.heap.get? id = some (.script script))
      (busy : ¬ (script.lockers = 0 ∧ script.markedDeleted = true)) (last : script.lockers ≤ 1)
      (holds : script.holdsSuperclasses = true)
      (others : UnlockCourse (store.withMarked number id script)
        (Store.owners store.heap number script ++ rest) entered after) :
      UnlockCourse store (number :: rest) (number :: entered) after

section Unique

variable {resources : Resources} {store after : Store} {number : UInt16}

/-- Locking a script takes one course only. -/
theorem LockCourse.unique {entered : List UInt16} {outcome : Except Fault SegmentId}
    (course : LockCourse resources store number entered outcome after) :
    ∀ {enteredToo outcomeToo afterToo},
      LockCourse resources store number enteredToo outcomeToo afterToo →
        entered = enteredToo ∧ outcome = outcomeToo ∧ after = afterToo := by
  -- The two kinds of courses contain each other, so both are shown to be unique at once.
  refine @LockCourse.rec resources
    (fun store number entered outcome after _ => ∀ {enteredToo outcomeToo afterToo},
      LockCourse resources store number enteredToo outcomeToo afterToo →
        entered = enteredToo ∧ outcome = outcomeToo ∧ after = afterToo)
    (fun number store species taken entered ended after _ => ∀ {enteredToo endedToo afterToo},
      OwnersCourse resources number store species taken enteredToo endedToo afterToo →
        entered = enteredToo ∧ ended = endedToo ∧ after = afterToo)
    ?unloaded ?missing ?holding ?through ?undone ?done ?unknown ?passed ?taken ?refused
    _ _ _ _ _ course
  case unloaded =>
    intro _ _ _ _ load _ _ _ other
    cases other <;> grind
  case missing =>
    intro _ _ _ _ _ load missing _ _ _ other
    cases other <;> grind
  case holding =>
    intro _ _ _ _ _ load found holds _ _ _ other
    cases other <;> grind
  case through =>
    intro _ _ _ _ _ _ _ load found free _ owners _ _ _ other
    cases other <;> grind
  case undone =>
    intro _ _ _ _ _ _ _ _ _ _ load found free _ undone owners _ _ _ other
    cases other <;> grind
  -- What remains is that no step of one kind is a step of another kind as well.
  case done =>
    intro _ _ _ _ _ _ other
    cases other
    exact ⟨rfl, rfl, rfl⟩
  case unknown =>
    intro _ _ _ _ _ _ _ _ unknown _ others _ _ _ other
    cases other <;> grind
  case passed =>
    intro _ _ _ _ _ _ _ _ _ known again _ others _ _ _ other
    cases other <;> grind
  case taken =>
    intro _ _ _ _ _ _ _ _ _ _ _ _ known fresh _ _ lock others _ _ _ other
    cases other <;> grind
  case refused =>
    intro _ _ _ _ _ _ _ _ _ known fresh _ lock _ _ _ other
    cases other <;> grind

/-- Dropping locks takes one course only. -/
theorem UnlockCourse.unique {numbers entered enteredToo : List UInt16} {afterToo : Store}
    (course : UnlockCourse store numbers entered after)
    (other : UnlockCourse store numbers enteredToo afterToo) :
    entered = enteredToo ∧ after = afterToo := by
  -- What there is under the first number decides.
  induction course generalizing enteredToo with
  | done =>
    cases other
    exact ⟨rfl, rfl⟩
  | absent absent _ ih => cases other <;> grind
  | missing placed missing _ ih => cases other <;> grind
  | waiting placed found waiting _ ih => cases other <;> grind
  | kept placed found busy more _ ih => cases other <;> grind
  | marked placed found busy last free _ ih => cases other <;> grind
  | released placed found busy last holds _ ih => cases other <;> grind

end Unique

end AdventureVm
