import AdventureVm.Proofs.Locks.Courses
import AdventureVm.Proofs.Locks.Refusal
import AdventureVm.Proofs.Memory.Operations

/-!
Locking and unlocking come to an end, however superclasses lead from script to script.

A script that comes to hold its superclasses holds them until something fails, and after a failure
nothing is locked any more. So no script is entered twice, and none more often than there are
numbers of scripts.
-/

namespace AdventureVm

namespace Heap

variable {heap before between after : Heap} {number other : UInt16} {id : SegmentId}
variable {old new : Script} {entered : List UInt16}

/-- What is under the number is a script that holds its superclasses. -/
def IsHolder (heap : Heap) (number : UInt16) : Prop :=
  ∃ id script, heap.scriptSegment? number = some id ∧ heap.get? id = some (.script script) ∧
    script.holdsSuperclasses = true

/-- A script that is in its place holds its superclasses when its flag says so. -/
theorem isHolder_iff (placed : heap.scriptSegment? number = some id)
    (found : heap.get? id = some (.script old)) :
    heap.IsHolder number ↔ old.holdsSuperclasses = true := by
  -- The place and what is in it are determined, so only the flag is left to tell.
  constructor
  · rintro ⟨place, script, placedToo, foundToo, holds⟩
    rw [placed, Option.some.injEq] at placedToo
    subst placedToo
    rw [found, Option.some.injEq, Segment.script.injEq] at foundToo
    rwa [foundToo]
  · exact fun holds => ⟨id, old, placed, found, holds⟩

/-- Holders stay holders when a script is replaced by one that holds what it held. -/
theorem IsHolder.put (holder : heap.IsHolder other) (found : heap.get? id = some (.script old))
    (keeps : old.holdsSuperclasses = true → new.holdsSuperclasses = true) :
    (heap.put id (some (.script new))).IsHolder other := by
  -- A holder is another segment, which is kept, or the very script that is replaced.
  obtain ⟨place, script, placed, present, holds⟩ := holder
  rcases get?_put_of_some found present (.script new) with kept | ⟨same, changed⟩
  · exact ⟨place, script, placed, kept, holds⟩
  · exact ⟨place, new, placed, changed, keeps (Segment.script.inj same ▸ holds)⟩

/-- A script that is replaced by one that holds nothing new makes no holder. -/
theorem IsHolder.of_put (holder : (heap.put id (some (.script new))).IsHolder other)
    (found : heap.get? id = some (.script old))
    (calm : new.holdsSuperclasses = true → old.holdsSuperclasses = true) :
    heap.IsHolder other := by
  obtain ⟨place, script, placed, present, holds⟩ := holder
  rw [get?_put found] at present
  -- Only the script that was replaced could hold anew, and it does not.
  split at present
  · rename_i here
    subst here
    cases present
    exact ⟨place, old, placed, found, calm holds⟩
  · exact ⟨place, script, placed, present, holds⟩

/-- Holders stay holders when a script is loaded. -/
theorem IsHolder.load {resources : Resources} (holder : before.IsHolder other)
    (loaded : before.Loaded resources number id after) : after.IsHolder other := by
  obtain ⟨place, script, placed, present, holds⟩ := holder
  refine ⟨place, script, ?_, loaded.kept place _ present, holds⟩
  -- The only new entry is that of a number which had none, so no entry is dropped for it.
  have others : ∀ entry ∈ before.residents, (entry.1 != number) = true := by
    intro entry member
    have apart := List.lookup_eq_none_iff.mp loaded.absent entry member
    simpa [bne, Bool.beq_comm] using apart
  have different : (other == number) = false := by
    apply beq_false_of_ne
    rintro rfl
    rw [loaded.absent] at placed
    cases placed
  rw [scriptSegment?, loaded.residents, setResident, List.filter_eq_self.mpr others,
    List.lookup_cons, different]
  exact placed

/-- Scripts are entered that were no holders before, each once. -/
structure Entered (before : Heap) (entered : List UInt16) : Prop where
  once : entered.Nodup
  fresh : ∀ number ∈ entered, ¬ before.IsHolder number

/-- Holders are still holders, and the scripts that were entered are holders as well. -/
structure Holding (before : Heap) (entered : List UInt16) (after : Heap) : Prop where
  stays : ∀ number, before.IsHolder number → after.IsHolder number
  entered : ∀ number ∈ entered, after.IsHolder number

/-- Nothing is entered while nothing is done. -/
theorem Entered.nil (heap : Heap) : heap.Entered [] :=
  ⟨.nil, by simp⟩

/-- Scripts that are entered one stretch after the other are entered once. -/
theorem Entered.append {second : List UInt16} (first : before.Entered entered)
    (holding : before.Holding entered between) (later : between.Entered second) :
    before.Entered (entered ++ second) where
  once := by
    rw [List.nodup_append]
    refine ⟨first.once, later.once, ?_⟩
    -- What was entered first holds by then, so it is not entered again.
    rintro number member _ memberToo rfl
    exact later.fresh number memberToo (holding.entered number member)
  fresh number member := by
    rcases List.mem_append.mp member with early | late
    · exact first.fresh number early
    · exact fun holder => later.fresh number late (holding.stays number holder)

/-- What holds through one stretch and through the next holds through both. -/
theorem Holding.append {second : List UInt16} (first : before.Holding entered between)
    (later : between.Holding second after) : before.Holding (entered ++ second) after where
  -- What was entered early is a holder already in between, and stays one.
  stays number holder := later.stays number (first.stays number holder)
  entered number member := by
    rcases List.mem_append.mp member with early | late
    · exact later.stays number (first.entered number early)
    · exact later.entered number late

end Heap

namespace Store

open Heap StoreM

variable {resources : Resources} {bound : Nat} {chain : List UInt16}

/-- What locking a script comes to where some scripts are holders already. -/
def TakesCourse (resources : Resources) (bound : Nat) (chain : List UInt16) : Prop :=
  ∀ (store : Store) (number : UInt16), 0 < store.heap.segments.size →
    (∀ holder ∈ chain, store.heap.IsHolder holder) →
      Leads (instantiateWithin resources bound number) store fun outcome after =>
        ∃ entered, LockCourse resources store number entered outcome after ∧
          store.heap.Entered entered ∧
            ∀ id, outcome = .ok id → store.heap.Holding entered after.heap

/-- Locking the scripts of superclasses takes its course if locking each of them does. -/
theorem lockOwners_course (each : TakesCourse resources bound chain) (number : UInt16)
    (species taken : List UInt16) (store : Store) (opened : 0 < store.heap.segments.size)
    (holders : ∀ holder ∈ chain, store.heap.IsHolder holder) :
    Leads (lockOwners (instantiateWithin resources bound) number species taken) store
      (Either (fun ended after => ∃ entered,
        OwnersCourse resources number store species taken entered ended after ∧
          store.heap.Entered entered ∧
            (ended = none → store.heap.Holding entered after.heap)) fun _ _ => False) := by
  -- The list of locked scripts grows from species to species, so it stays quantified over.
  induction species generalizing taken store with
  | nil => exact ⟨[], .done, .nil _, fun _ => ⟨fun _ holder => holder, by simp⟩⟩
  | cons first rest ih =>
    simp only [lockOwners, leads_bind, leads_read, either_ok]
    cases known : store.heap.classes.script? first with
    | none =>
      simp only [leads_bind, leads_note, either_ok]
      apply (ih taken (store.note .warn _) opened holders).certain
      rintro ended after ⟨entered, course, whole⟩
      exact ⟨entered, .unknown known course, whole⟩
    | some owner =>
      simp only
      split
      · rename_i again
        apply (ih taken store opened holders).certain
        rintro ended after ⟨entered, course, whole⟩
        exact ⟨entered, .passed known again course, whole⟩
      · rename_i fresh
        simp only [leads_bind, leads_outcome, either_ok]
        apply ((each store owner opened holders).and
          (instantiateWithin_advances resources bound owner store opened)).mono
        rintro outcome between ⟨⟨begun, lock, once, holding⟩, develops⟩
        cases outcome with
        -- A refusal ends the list here, after all that its own course entered.
        | error fault =>
          exact ⟨begun, .refused known fresh lock, once, by simp⟩
        | ok id =>
          -- What was entered for this script holds, so nothing of it is entered for the others.
          have held := holding id rfl
          apply (ih (taken ++ [owner]) between (develops.opened opened)
            fun holder member => held.stays holder (holders holder member)).certain
          rintro ended after ⟨entered, course, further, holdingToo⟩
          exact ⟨begun ++ entered, .locked known fresh lock course, once.append held further,
            fun through => held.append (holdingToo through)⟩

/-- A script that holds its superclasses is a holder from then on. -/
theorem withHolder_holding {store : Store} (number : UInt16) {id : SegmentId} {script : Script}
    (found : store.heap.get? id = some (.script script)) :
    (store.heap.scriptSegment? number = some id → (store.withHolder id).heap.IsHolder number) ∧
      ∀ other, store.heap.IsHolder other → (store.withHolder id).heap.IsHolder other := by
  -- Taking the first lock sets the flag and clears no other.
  have same : (store.withHolder id).heap = store.heap.put id (some (.script
      { script.lock.mark false with holdsSuperclasses := true })) := modify_eq_put found _
  rw [same]
  refine ⟨?_, fun other holder => holder.put found fun _ => rfl⟩
  intro placed
  exact ⟨id, _, placed, by rw [get?_put found, if_pos rfl], rfl⟩

/-- A script that loading answers is under its number, and holders are still holders. -/
theorem arrival_holders {store loaded : Store} {number : UInt16} {id : SegmentId}
    (arrived : store.heap.scriptSegment? number = some id ∧ loaded = store ∨
      store.heap.Loaded resources number id loaded.heap ∧
        (store.heap.Sound → loaded.heap.Sound)) :
    loaded.heap.scriptSegment? number = some id ∧
      ∀ other, store.heap.IsHolder other → loaded.heap.IsHolder other := by
  -- Either the script was resident and nothing changed, or it has just been loaded.
  rcases arrived with ⟨placed, rfl⟩ | ⟨loading, _⟩
  · exact ⟨placed, fun _ holder => holder⟩
  · exact ⟨by simp [scriptSegment?, loading.residents, setResident],
      fun _ holder => holder.load loading⟩

/-- What is entered for a script that was entered itself, and held when nothing fails. -/
theorem entered_and_held {before marked after : Heap} {number : UInt16} {entered : List UInt16}
    (fresh : ¬ before.IsHolder number) (holder : marked.IsHolder number)
    (stays : ∀ other, before.IsHolder other → marked.IsHolder other)
    (once : marked.Entered entered) :
    before.Entered (number :: entered) ∧
      (marked.Holding entered after → before.Holding (number :: entered) after) := by
  -- The script holds before anything is entered for it, so it is not among that.
  refine ⟨⟨List.nodup_cons.mpr ⟨fun member => once.fresh number member holder, once.once⟩, ?_⟩, ?_⟩
  · intro other member
    rcases List.mem_cons.mp member with rfl | member
    · exact fresh
    · exact fun earlier => once.fresh other member (stays other earlier)
  · intro held
    refine ⟨fun other earlier => held.stays other (stays other earlier), ?_⟩
    intro other member
    rcases List.mem_cons.mp member with rfl | member
    · exact held.stays other holder
    · exact held.entered other member

/-- Locking a script takes its course, if the bound is beyond what is left of the numbers. -/
theorem instantiateWithin_course (distinct : chain.Nodup)
    (enough : segmentLimit < chain.length + bound) : TakesCourse resources bound chain := by
  -- Each script that is entered joins the chain of holders, which cannot exceed the numbers.
  induction bound generalizing chain with
  | zero =>
    -- The chain is longer than there are numbers, so the bound cannot be used up.
    have few := length_le_of_nodup distinct
    omega
  | succ bound ih =>
    intro store number opened holders
    simp only [instantiateWithin, leads_bind, leads_read, either_ok]
    apply (((leads_loadScript_opened resources number store opened).and
      (loadScript_advances resources number store opened)).and
        (.intro fun _ _ ran => ran)).mono
    rintro outcome loaded ⟨⟨arrived, develops⟩, load⟩
    cases outcome with
    | error fault => exact ⟨[], .unloaded load, .nil _, fun _ => by simp⟩
    | ok id =>
      rw [either_ok] at arrived
      obtain ⟨placed, loadedStays⟩ := arrival_holders arrived
      rw [either_ok, leads_require]
      cases present : loaded.heap.script id with
      | error fault => exact ⟨[], .missing load present, .nil _, fun _ => by simp⟩
      | ok script =>
        have found := script_eq_ok.mp present
        obtain ⟨holding, markedStays⟩ := withHolder_holding number found
        have stays (other : UInt16) (holder : store.heap.IsHolder other) :
            (loaded.withHolder id).heap.IsHolder other :=
          markedStays other (loadedStays other holder)
        have marks : loaded.heap.Develops (loaded.withHolder id).heap :=
          Develops.refl.modifyScript found ⟨_, _, _, rfl⟩
        have markedOpened := (develops.trans marks).opened opened
        simp only [either_ok, leads_change]
        split
        · rename_i holds
          exact ⟨[], .holding load present holds, .nil _, fun _ _ => ⟨stays, by simp⟩⟩
        · -- The script is no holder yet, and is one while its superclasses are gone through.
          rename_i flag
          have free : script.holdsSuperclasses = false := by simpa using flag
          have fresh : ¬ store.heap.IsHolder number :=
            fun holder => flag ((isHolder_iff placed found).mp (loadedStays number holder))
          have longer : (number :: chain).Nodup :=
            List.nodup_cons.mpr ⟨fun member => fresh (holders number member), distinct⟩
          have holdersNow : ∀ holder ∈ number :: chain,
              (loaded.withHolder id).heap.IsHolder holder := by
            intro holder member
            rcases List.mem_cons.mp member with rfl | member
            · exact holding placed
            · exact stays holder (holders holder member)
          rw [leads_bind]
          apply ((lockOwners_course (ih longer (by simp; omega)) number script.superclasses []
            (loaded.withHolder id) markedOpened holdersNow).and
              (lockOwners_advances (instantiateWithin_advances resources bound) number
                script.superclasses [] _ markedOpened)).mono
          rintro ended between ⟨reached, locking⟩
          -- Going through the superclasses itself never fails: a refusal is its answer.
          cases ended with
          | error fault => exact reached.elim
          | ok failure =>
            obtain ⟨entered, owners, once, held⟩ := reached
            obtain ⟨begun, whole⟩ := entered_and_held fresh (holding placed) stays once
            cases failure with
            | none =>
              exact ⟨number :: entered, .locked load present free owners, begun,
                fun _ _ => whole (held rfl)⟩
            | some failed =>
              obtain ⟨fault, taken⟩ := failed
              simp only [either_ok, leads_bind]
              apply ((refusal_develops taken arrived develops found (marks.trans locking)).and
                (.intro fun _ _ ran => ran)).mono
              rintro undone after ⟨certain, ran⟩
              cases undone with
              | error fault => exact certain.elim
              | ok value =>
                exact ⟨number :: entered, .refused load present free owners ran, begun,
                  fun _ failed => by cases failed⟩

/-- A script with one user less holds nothing that it did not. -/
theorem holds_of_unlocked {script : Script} (holds : (unlocked script).holdsSuperclasses = true) :
    script.holdsSuperclasses = true := by
  -- Dropping a lock leaves the flag alone or clears it.
  unfold unlocked at holds
  split at holds
  · simp at holds
  · exact holds

/-- Dropping locks takes its course, and no script that gives locks back is a holder afterwards. -/
theorem release_course (store : Store) (numbers : List UInt16) :
    ∃ entered, UnlockCourse store numbers entered (store.release numbers) ∧ entered.Nodup ∧
      (∀ number ∈ entered, store.heap.IsHolder number) ∧
        ∀ number, (store.release numbers).heap.IsHolder number →
          number ∉ entered ∧ store.heap.IsHolder number := by
  fun_induction release store numbers with
  | case1 store => exact ⟨[], .done, .nil, by simp, fun _ holder => ⟨by simp, holder⟩⟩
  | case2 store number rest absent ih =>
    obtain ⟨entered, course, once, whole⟩ := ih
    exact ⟨entered, .absent absent course, once, whole⟩
  | case3 store number rest id placed script found idle ih =>
    obtain ⟨entered, course, once, whole⟩ := ih
    exact ⟨entered, .waiting placed found idle course, once, whole⟩
  | case4 store number rest id placed script found busy changed last noted holds ih =>
    obtain ⟨entered, course, once, begun, left⟩ := ih
    have calm (other : UInt16) (holder : noted.heap.IsHolder other) :
        store.heap.IsHolder other := holder.of_put found holds_of_unlocked
    -- The script has given up its flag, so it is not entered again.
    have out : ¬ noted.heap.IsHolder number := by
      have there : noted.heap.get? id = some (.script (unlocked script)) := by
        show (store.heap.put id _).get? id = _
        rw [get?_put found, if_pos rfl]
      rw [isHolder_iff (show noted.heap.scriptSegment? number = some id from placed) there,
        unlocked, if_pos last]
      simp
    refine ⟨number :: entered, .released placed found busy last holds course,
      List.nodup_cons.mpr ⟨fun member => out (begun number member), once⟩, ?_, ?_⟩
    · -- Whoever is entered later was a holder when the flag was given up, and so before.
      intro other member
      rcases List.mem_cons.mp member with rfl | member
      · exact (isHolder_iff placed found).mpr holds
      · exact calm other (begun other member)
    · intro other holder
      obtain ⟨outside, earlier⟩ := left other holder
      refine ⟨?_, calm other earlier⟩
      rw [List.mem_cons, not_or]
      exact ⟨fun same => out (same ▸ earlier), outside⟩
  -- The last lock goes, but the script has no flag to give up.
  | case5 store number rest id placed script found busy changed last noted free ih =>
    obtain ⟨entered, course, once, begun, left⟩ := ih
    have calm (other : UInt16) (holder : noted.heap.IsHolder other) :
        store.heap.IsHolder other := holder.of_put found holds_of_unlocked
    exact ⟨entered, .marked placed found busy last (by simpa using free) course, once,
      fun other member => calm other (begun other member),
      fun other holder => ⟨(left other holder).1, calm other (left other holder).2⟩⟩
  | case6 store number rest id placed script found busy changed more ih =>
    obtain ⟨entered, course, once, begun, left⟩ := ih
    have calm (other : UInt16) (holder : changed.heap.IsHolder other) :
        store.heap.IsHolder other := holder.of_put found holds_of_unlocked
    exact ⟨entered, .kept placed found busy (by omega) course, once,
      fun other member => calm other (begun other member),
      fun other holder => ⟨(left other holder).1, calm other (left other holder).2⟩⟩
  | case7 store number rest id placed elsewhere ih =>
    obtain ⟨entered, course, once, whole⟩ := ih
    exact ⟨entered, .missing placed elsewhere course, once, whole⟩

/--
Locking a script and unlocking it come to an end, whatever is in memory and in the resources.

Each takes exactly one course, on which no script is entered twice, and which is the one that the
bounded work follows. Every memory that arises has its place zero.
-/
theorem locking_ends (resources : Resources) {store : Store}
    (opened : 0 < store.heap.segments.size) (number : UInt16) :
    (∃ entered : List UInt16, entered.Nodup ∧ ∀ other outcome after,
      LockCourse resources store number other outcome after ↔
        other = entered ∧ (instantiateScript resources number).run store = (outcome, after)) ∧
      ∃ entered : List UInt16, entered.Nodup ∧ ∀ other after,
        UnlockCourse store [number] other after ↔
          other = entered ∧ (uninstantiateScript number).run store = (.ok (), after) := by
  constructor
  · -- There are fewer scripts than the bound allows, so it is never reached.
    have takes : TakesCourse resources (segmentLimit + 1) [] :=
      instantiateWithin_course .nil (by simp)
    obtain ⟨entered, course, once, _⟩ := takes store number opened (by simp)
    refine ⟨entered, once.once, fun other outcome after => ⟨?_, ?_⟩⟩
    · intro taken
      obtain ⟨rfl, rfl, rfl⟩ := course.unique taken
      exact ⟨rfl, rfl⟩
    · -- The course that is taken ends as the work does.
      rintro ⟨rfl, ran⟩
      rw [instantiateScript] at ran
      rwa [ran] at course
  · obtain ⟨entered, course, once, _⟩ := release_course store [number]
    refine ⟨entered, once, fun other after => ⟨?_, ?_⟩⟩
    · intro taken
      obtain ⟨rfl, rfl⟩ := course.unique taken
      exact ⟨rfl, rfl⟩
    · rintro ⟨rfl, ran⟩
      cases ran
      exact course

/-- Locking comes to an end where scripts need each other and a lock is refused on the way. -/
theorem locking_ends_ring :
    0 < ringLoaded.heap.segments.size ∧ ∃ (entered : List UInt16) (outcome : Except Fault SegmentId)
      (after : Store), entered.Nodup ∧ LockCourse .ring ringLoaded 10 entered outcome after := by
  -- The general theorem gives the course; only that memory is not empty is computed.
  have opened : 0 < ringLoaded.heap.segments.size := by decide +kernel
  obtain ⟨⟨entered, once, course⟩, _⟩ := locking_ends .ring opened 10
  exact ⟨opened, entered, _, _, once, (course entered _ _).mpr ⟨rfl, rfl⟩⟩

end Store

end AdventureVm
