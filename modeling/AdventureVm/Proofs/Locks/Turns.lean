import AdventureVm.Proofs.Locks.Instantiate

/-! What locking and unlocking do to the scripts in memory, one turn after the other. -/

namespace AdventureVm

/-- One thing that locking or unlocking does to what is in memory under a number. -/
inductive Turn (resources : Resources) (version : Version) (number : UInt16) :
    Option Script → Option Script → Prop where
  /-- A script comes into memory and is locked. -/
  | come {id localsSegment : SegmentId} {script : Script} {locals : Array Address}
      (offers : resources.Offers version number id script locals) :
      Turn resources version number none
        (some ({ script with localsSegment }.withLocks 1 false true))
  | lock (script : Script) :
      Turn resources version number (some script)
        (some (script.withLocks (script.lockers + 1) false true))
  | unlock (script : Script) :
      Turn resources version number (some script) (some (Store.unlocked script))
  /-- A lock is taken back from a script whose superclasses could not be locked. -/
  | giveUp (script : Script) :
      Turn resources version number (some script) (some (script.withLocks (script.lockers - 1)
        (script.markedDeleted || script.lockers - 1 == 0) false))
  /-- A script that came in vain leaves. -/
  | leave (script : Script) : Turn resources version number (some script) none

/-- Scripts among the given ones take turns, one after the other. -/
inductive Turns (resources : Resources) (version : Version) (among : UInt16 → Prop)
    (before : UInt16 → Option Script) : (UInt16 → Option Script) → Prop where
  | refl : Turns resources version among before before
  | step {between : UInt16 → Option Script} {number : UInt16} {after : Option Script}
      (turns : Turns resources version among before between) (member : among number)
      (turn : Turn resources version number (between number) after) :
      Turns resources version among before (Function.update between number after)

/-- What is in memory under a number is locked or marked, or there is nothing. -/
def IsClaimed (resident : Option Script) : Prop :=
  ∀ script, resident = some script → 0 < script.lockers ∨ script.markedDeleted = true

/-- A turn leaves a script that is locked or marked. -/
theorem Turn.claimed {resources : Resources} {version : Version} {number : UInt16}
    {before after : Option Script} (turn : Turn resources version number before after)
    (claimed : IsClaimed before) : IsClaimed after := by
  intro script seen
  cases turn with
  | come offers =>
    cases seen
    exact .inl Nat.one_pos
  | lock script =>
    cases seen
    exact .inl (Nat.succ_pos _)
  | unlock script =>
    cases seen
    -- The last lock leaves the mark, any other leaves a lock.
    unfold Store.unlocked
    split
    · exact .inr rfl
    · left
      simp only [Script.unlock]
      omega
  | giveUp script =>
    cases seen
    -- A lock that is given up leaves another one, or the mark.
    simp only [Script.withLocks, Bool.or_eq_true, beq_iff_eq]
    omega
  | leave script => cases seen

namespace Turns

variable {resources : Resources} {version : Version} {among : UInt16 → Prop}
  {before between after : UInt16 → Option Script}

/-- Turns after turns are turns. -/
theorem trans (early : Turns resources version among before between)
    (late : Turns resources version among between after) :
    Turns resources version among before after := by
  -- Induction on the later turns.
  induction late with
  | refl => exact early
  | step _ member turn ih => exact ih.step member turn

/-- Turns of some scripts are turns of those and others. -/
theorem mono (turns : Turns resources version among before after) {wider : UInt16 → Prop}
    (part : ∀ number, among number → wider number) :
    Turns resources version wider before after := by
  -- Induction on the turns, each of which is one of the wider set.
  induction turns with
  | refl => exact .refl
  | step _ member turn ih => exact ih.step (part _ member) turn

/-- Scripts that take no turn stay as they are. -/
theorem untouched (turns : Turns resources version among before after) {number : UInt16}
    (outside : ¬ among number) : after number = before number := by
  -- Induction on the turns: each updates the number of the script whose turn it was.
  induction turns with
  | refl => rfl
  | @step between other _ _ member _ ih =>
    have different : number ≠ other := by
      intro same
      exact outside (same ▸ member)
    rw [Function.update_of_ne different, ih]

/-- A script that is locked or marked stays so, turn by turn. -/
theorem claimed (turns : Turns resources version among before after) {number : UInt16}
    (claimed : IsClaimed (before number)) : IsClaimed (after number) := by
  induction turns with
  | refl => exact claimed
  | @step between other _ _ _ turn ih =>
    -- A turn is about one number, and leaves what others find.
    by_cases same : number = other
    · subst same
      rw [Function.update_self]
      exact turn.claimed ih
    · rw [Function.update_of_ne same]
      exact ih

end Turns

/-- Memory is as the resources say, whatever the locks on the scripts in it. -/
structure Heap.Faithful (heap : Heap) (resources : Resources) (version : Version) : Prop where
  /-- The tables agree with the segments. -/
  sound : heap.Sound
  /-- The format is that of the resources. -/
  format : heap.version = version
  /-- The known classes are in the scripts that the resources name. -/
  species : ∀ species, heap.classes.script? species = resources.owner? species
  /-- A script in memory knows its number and needs what the resources say that it needs. -/
  offered : ∀ number script, heap.scriptByNumber? number = some script → script.number = number ∧
    ∀ other, script.Needs resources other → resources.Depends version number other

/-- A script is in memory without being resident. -/
def Heap.IsStray (heap : Heap) (id : SegmentId) (script : Script) : Prop :=
  heap.get? id = some (.script script) ∧ ∀ number, heap.scriptSegment? number ≠ some id

/-- Memory is still as the resources say after scripts among the given ones took turns. -/
structure Heap.Turned (before : Heap) (resources : Resources) (version : Version)
    (among : UInt16 → Prop) (after : Heap) : Prop where
  faithful : after.Faithful resources version
  turns : Turns resources version among before.scriptByNumber? after.scriptByNumber?
  /-- No script has come into memory without being resident. -/
  strays : ∀ id script, after.IsStray id script → before.IsStray id script

namespace Heap

variable {resources : Resources} {version : Version} {among : UInt16 → Prop}
  {heap before between after : Heap} {number : UInt16} {id : SegmentId} {script : Script}

/-- Memory with balanced books is as the resources say. -/
theorem Balanced.faithful {owed : UInt16 → Nat} {edges : UInt16 → UInt16 → Prop}
    {busy : UInt16 → Prop} (balanced : heap.Balanced resources version owed edges busy) :
    heap.Faithful resources version :=
  ⟨balanced.sound, balanced.format, balanced.species, balanced.books.offered⟩

/-- A script that is not resident is where it was when a resident one gets another account. -/
theorem stray_of_put (placed : heap.scriptSegment? number = some id)
    (found : heap.get? id = some (.script script)) {changed other : Script} {place : SegmentId}
    (stray : (heap.put id (some (.script changed))).IsStray place other) :
    heap.IsStray place other := by
  -- The place of a resident script is not astray, so the stray one is in another place.
  obtain ⟨there, homeless⟩ := stray
  rw [get?_put found] at there
  split at there
  · rename_i here
    exact absurd (here ▸ placed) (homeless number)
  · exact ⟨there, homeless⟩

/-- A script that is not resident was in memory before another one was brought there. -/
theorem stray_of_brought (sound : before.Sound)
    (brought : before.Brought resources number id after)
    (found : after.get? id = some (.script script)) {place : SegmentId} {other : Script}
    (stray : after.IsStray place other) : before.IsStray place other := by
  obtain ⟨there, homeless⟩ := stray
  have resident : after.scriptSegment? number = some id := by
    rw [scriptSegment?_eq_some brought.sound.distinct, brought.residents]
    simp [setResident]
  have arrival := brought.arrivals script found place
  split at arrival
  · -- In the places that were filled there are a resident script and variables.
    rename_i came
    rcases came with here | ⟨withVariables, here⟩
    · exact absurd (here ▸ resident) (homeless number)
    · obtain ⟨_, table, tableAt, _⟩ := brought.sound.ownLocals id script found withVariables
      rw [← here, there] at tableAt
      cases tableAt
  · refine ⟨arrival ▸ there, ?_⟩
    intro owner residing
    refine homeless owner ((scriptSegment?_eq_some brought.sound.distinct).mpr ?_)
    rw [brought.residents, mem_setResident sound.distinct brought.absent]
    exact .inr ((scriptSegment?_eq_some sound.distinct).mp residing)

namespace Faithful

/-- A script gets another account in place. -/
theorem put (faithful : heap.Faithful resources version)
    (placed : heap.scriptSegment? number = some id)
    (found : heap.get? id = some (.script script)) (lockers : Nat) (deleted holds : Bool) :
    (heap.put id (some (.script (script.withLocks lockers deleted holds)))).Faithful resources
      version := by
  refine ⟨(Extends.put_withLocks faithful.sound found lockers deleted holds).sound,
    faithful.format, faithful.species, ?_⟩
  rw [scriptByNumber?_put faithful.sound placed found]
  intro other contents seen
  -- Neither the number nor what is needed goes by the account.
  rcases Books.seen_update seen with ⟨rfl, rfl⟩ | ⟨_, earlier⟩
  · exact faithful.offered other script (scriptByNumber?_of_placed placed found)
  · exact faithful.offered other contents earlier

/-- Memory that holds the same is as faithful. -/
theorem of_alike (faithful : before.Faithful resources version) (sound : after.Sound)
    (alike : before.Alike after) : after.Faithful resources version := by
  -- Format, classes and resident scripts are all that faithfulness speaks of.
  refine ⟨sound, alike.version.trans faithful.format, ?_, ?_⟩
  · intro species
    rw [alike.classes]
    exact faithful.species species
  · rw [alike.scriptByNumber?]
    exact faithful.offered

/-- A script that is brought into memory is what the resources offer. -/
theorem of_brought (orderly : resources.Orderly version)
    (faithful : before.Faithful resources version)
    (brought : before.Brought resources number id after) : after.Faithful resources version := by
  obtain ⟨script, locals, localsSegment, offers, found, classes⟩ := brought.script
  rw [faithful.format] at offers
  refine ⟨brought.sound, brought.version.trans faithful.format, ?_, ?_⟩
  · -- Its classes are known to be its own.
    intro species
    rw [classes, script?_registerClasses, faithful.species]
    intro object defined isClass
    rw [faithful.species, offers.fresh.number]
    exact orderly.owned number id script locals offers object defined isClass
  · rw [brought.scriptByNumber? faithful.sound found]
    intro other contents seen
    rcases Books.seen_update seen with ⟨rfl, rfl⟩ | ⟨_, earlier⟩
    · exact ⟨offers.fresh.number, fun needed needs => ⟨id, script, locals, offers, needs⟩⟩
    · exact faithful.offered other contents earlier

/-- Memory stays faithful when a script leaves. -/
theorem of_departed (faithful : before.Faithful resources version)
    (placed : before.scriptSegment? number = some id)
    (found : before.get? id = some (.script script))
    (departed : Store.Departed before id script after) : after.Faithful resources version := by
  refine ⟨departed.sound, departed.version.trans faithful.format, ?_, ?_⟩
  · intro species
    rw [departed.classes, ClassTable.script?_forget]
    exact faithful.species species
  · rw [scriptByNumber?_departed faithful.sound placed found departed]
    intro other contents seen
    -- Nobody is found under the number of a script that has left.
    by_cases here : other = number
    · subst here
      simp at seen
    · rw [Function.update_of_ne here] at seen
      exact faithful.offered other contents seen

end Faithful

namespace Turned

/-- Nothing has happened yet. -/
theorem refl (faithful : before.Faithful resources version) :
    before.Turned resources version among before :=
  ⟨faithful, .refl, fun _ _ stray => stray⟩

/-- What happens after what happened is all that happens. -/
theorem trans (early : before.Turned resources version among between)
    (late : between.Turned resources version among after) :
    before.Turned resources version among after :=
  ⟨late.faithful, early.turns.trans late.turns,
    fun id script stray => early.strays id script (late.strays id script stray)⟩

/-- Turns of some scripts are turns of those and others. -/
theorem mono (turned : before.Turned resources version among after) {wider : UInt16 → Prop}
    (part : ∀ number, among number → wider number) :
    before.Turned resources version wider after :=
  ⟨turned.faithful, turned.turns.mono part, turned.strays⟩

/-- Memory that holds the same has seen no turn. -/
theorem of_alike (faithful : before.Faithful resources version) (sound : after.Sound)
    (alike : before.Alike after) : before.Turned resources version among after := by
  -- No turn was taken; a stray script is in the same place and has no number either way.
  refine ⟨faithful.of_alike sound alike, ?_, ?_⟩
  · rw [alike.scriptByNumber?]
    exact .refl
  · intro id script stray
    simpa [IsStray, scriptSegment?, alike.places, alike.residents] using stray

/-- A script takes a turn in its place. -/
theorem put (faithful : before.Faithful resources version) (member : among number)
    (placed : before.scriptSegment? number = some id)
    (found : before.get? id = some (.script script)) {lockers : Nat} {deleted holds : Bool}
    (turn : Turn resources version number (some script)
      (some (script.withLocks lockers deleted holds))) :
    before.Turned resources version among
      (before.put id (some (.script (script.withLocks lockers deleted holds)))) := by
  -- One turn, written in the place of the resident script.
  refine ⟨faithful.put placed found lockers deleted holds, ?_,
    fun _ _ => stray_of_put placed found⟩
  rw [scriptByNumber?_put faithful.sound placed found]
  apply Turns.refl.step member
  rw [scriptByNumber?_of_placed placed found]
  exact turn

/-- A script leaves. -/
theorem of_departed (faithful : before.Faithful resources version) (member : among number)
    (placed : before.scriptSegment? number = some id)
    (found : before.get? id = some (.script script))
    (departed : Store.Departed before id script after) :
    before.Turned resources version among after := by
  refine ⟨faithful.of_departed placed found departed, ?_, ?_⟩
  · rw [scriptByNumber?_departed faithful.sound placed found departed]
    apply Turns.refl.step member
    rw [scriptByNumber?_of_placed placed found]
    exact .leave script
  · intro place other stray
    obtain ⟨there, homeless⟩ := stray
    rw [departed.places] at there
    split at there
    · cases there
    · rename_i stays
      refine ⟨there, ?_⟩
      -- A resident of another place is still resident.
      intro number residing
      refine homeless number ((scriptSegment?_eq_some departed.sound.distinct).mpr ?_)
      exact (departed.residents _).mpr
        ⟨(scriptSegment?_eq_some faithful.sound.distinct).mp residing, fun here =>
          stays (.inl here)⟩

end Turned

end Heap

namespace Store

variable {resources : Resources} {version : Version} {among : UInt16 → Prop}

/-- A lock is dropped on a script in its place. -/
theorem unlock_turned {heap : Heap} {number : UInt16} {id : SegmentId} {script : Script}
    (faithful : heap.Faithful resources version) (member : among number)
    (placed : heap.scriptSegment? number = some id)
    (found : heap.get? id = some (.script script)) :
    heap.Turned resources version among (heap.put id (some (.script (unlocked script)))) := by
  -- Dropping a lock changes the account only, which is what a turn may change.
  obtain ⟨lockers, deleted, holds, same⟩ := unlocked_eq script
  have turn : Turn resources version number (some script) (some (unlocked script)) := .unlock script
  rw [same] at turn ⊢
  exact .put faithful member placed found turn

/--
Dropping locks makes scripts take turns.

They are those on which locks are to be dropped, and those that superclasses lead to from there.
-/
theorem release_turned
    (closed : ∀ number other, among number → resources.Depends version number other → among other)
    (store : Store) (numbers : List UInt16) (members : ∀ number ∈ numbers, among number)
    (faithful : store.heap.Faithful resources version) :
    store.heap.Turned resources version among (store.release numbers).heap := by
  fun_induction release store numbers with
  | case1 store => exact .refl faithful
  | case2 store number rest absent ih =>
    exact ih (fun other member => members other (List.mem_cons_of_mem _ member)) faithful
  | case3 store number rest id placed script found idle ih =>
    exact ih (fun other member => members other (List.mem_cons_of_mem _ member)) faithful
  | case4 store number rest id placed script found busy changed last noted holds ih =>
    have here := members number List.mem_cons_self
    have step : store.heap.Turned resources version among changed.heap :=
      unlock_turned faithful here placed found
    refine step.trans (ih ?_ step.faithful)
    -- The script needs those on which it drops its locks.
    obtain ⟨named, needed⟩ :=
      faithful.offered number script (Heap.scriptByNumber?_of_placed placed found)
    intro other member
    rcases List.mem_append.mp member with owner | later
    · rw [← named] at owner
      exact closed number other here (needed other ((mem_owners faithful.species other).mp owner))
    · exact members other (List.mem_cons_of_mem _ later)
  -- In the other cases the list does not grow.
  | case5 store number rest id placed script found busy changed last noted free ih =>
    have step : store.heap.Turned resources version among changed.heap :=
      unlock_turned faithful (members number List.mem_cons_self) placed found
    exact step.trans (ih (fun other member => members other (List.mem_cons_of_mem _ member))
      step.faithful)
  | case6 store number rest id placed script found busy changed more ih =>
    have step : store.heap.Turned resources version among changed.heap :=
      unlock_turned faithful (members number List.mem_cons_self) placed found
    exact step.trans (ih (fun other member => members other (List.mem_cons_of_mem _ member))
      step.faithful)
  | case7 store number rest id placed elsewhere ih =>
    exact ih (fun other member => members other (List.mem_cons_of_mem _ member)) faithful

/-- The scripts that superclasses lead to, from script to script. -/
abbrev LedTo (resources : Resources) (version : Version) : UInt16 → UInt16 → Prop :=
  Relation.ReflTransGen (resources.Depends version)

/-- What it means that some way to lock a script makes only those take turns that it leads to. -/
def LocksInTurn (resources : Resources) (version : Version)
    (lock : UInt16 → StoreM SegmentId) : Prop :=
  ∀ (number : UInt16) (store : Store), store.heap.Faithful resources version →
    Leads (lock number) store fun _ after =>
      store.heap.Turned resources version (LedTo resources version number) after.heap

/-- Locking the scripts of superclasses makes those take turns that they lead to. -/
theorem lockOwners_turned {lock : UInt16 → StoreM SegmentId}
    (each : LocksInTurn resources version lock) {number : UInt16} (species locked : List UInt16)
    (needed : ∀ kind ∈ species, ∀ owner, resources.owner? kind = some owner → owner ≠ number →
      resources.Depends version number owner)
    (taken : ∀ owner ∈ locked, resources.Depends version number owner) (store : Store)
    (faithful : store.heap.Faithful resources version) :
    Leads (lockOwners lock number species locked) store (Either
      (fun failure after =>
        store.heap.Turned resources version (LedTo resources version number) after.heap ∧
        ∀ fault listed, failure = some (fault, listed) →
          ∀ owner ∈ listed, resources.Depends version number owner)
      fun _ _ => False) := by
  -- The script depends on the owners that were locked, and on those that are still to be locked.
  refine (leads_lockOwners
    (fun later taken between =>
      store.heap.Turned resources version (LedTo resources version number) between.heap ∧
      (∀ owner ∈ taken, resources.Depends version number owner) ∧
      ∀ kind ∈ later, ∀ owner, resources.owner? kind = some owner → owner ≠ number →
        resources.Depends version number owner)
    (fun _ taken between =>
      store.heap.Turned resources version (LedTo resources version number) between.heap ∧
      ∀ owner ∈ taken, resources.Depends version number owner)
    ⟨.refl faithful, taken, needed⟩ ?_ ?_ ?_).certain ?_
  · rintro kind later taken between _ ⟨turned, depends, further⟩ _
    exact ⟨turned, depends, fun other member => further other (List.mem_cons_of_mem _ member)⟩
  · rintro kind later taken between _ ⟨turned, depends, further⟩ _ _
    exact ⟨turned, depends, fun other member => further other (List.mem_cons_of_mem _ member)⟩
  · rintro kind later taken between found ⟨turned, depends, further⟩ owner different _
    rw [turned.faithful.species] at owner
    have needs := further kind List.mem_cons_self found owner different
    -- Whatever the owner leads to, the script leads to.
    have widened {after : Store} (turnedThen : between.heap.Turned resources version
        (LedTo resources version found) after.heap) :
        store.heap.Turned resources version (LedTo resources version number) after.heap :=
      turned.trans (turnedThen.mono fun other led => .head needs led)
    apply (each found between turned.faithful).mono
    intro outcome after turnedThen
    -- A lock that was granted is listed, and its owner is among the needed.
    cases outcome with
    | error fault => exact ⟨widened turnedThen, depends⟩
    | ok value =>
      refine ⟨widened turnedThen, ?_,
        fun other member => further other (List.mem_cons_of_mem _ member)⟩
      intro other member
      rcases List.mem_append.mp member with earlier | last
      · exact depends other earlier
      · rw [List.mem_singleton.mp last]
        exact needs
  · intro failure after ended
    cases failure with
    | none =>
      obtain ⟨_, turned, _⟩ := ended
      exact ⟨turned, by simp⟩
    | some failed =>
      obtain ⟨turned, depends⟩ := ended
      refine ⟨turned, ?_⟩
      rintro fault listed ⟨⟩
      exact depends

/-- Taking a lock back makes a script take a turn, after those on which it had taken locks. -/
theorem rollBack_turned {number : UInt16} {id : SegmentId} {script : Script} {resident : Bool}
    {taken : List UInt16} (depends : ∀ owner ∈ taken, resources.Depends version number owner)
    (store : Store) (placed : Placed store.heap number id script)
    (faithful : store.heap.Faithful resources version) :
    Leads (rollBack resident id taken) store (Either
      (fun _ after =>
        store.heap.Turned resources version (LedTo resources version number) after.heap ∧
        (resident = false → after.heap.scriptByNumber? number = none))
      fun _ _ => False) := by
  have released : store.heap.Turned resources version (LedTo resources version number)
      (store.release taken).heap :=
    release_turned (fun _ _ led step => .tail led step) store taken
      (fun owner member => .single (depends owner member)) faithful
  -- The script itself is still in its place.
  obtain ⟨place, lockers, deleted, holds, found⟩ :=
    placed.extends (release_extends store taken faithful.sound)
  refine leads_rollBack found (fun stays => ?_) fun _ => ?_
  · refine ⟨released.trans ?_, by simp [stays]⟩
    rw [heap_mapHeap, Heap.modifyScript, Heap.modify_eq_put found]
    exact .put released.faithful .refl place found (.giveUp _)
  · refine (leads_free_script released.faithful.sound found).certain fun _ after departed => ?_
    refine ⟨released.trans (.of_departed released.faithful .refl place found departed), ?_⟩
    intro _
    rw [Heap.scriptByNumber?_departed released.faithful.sound place found departed,
      Function.update_self]

/-- Loading a script leaves memory as the resources say. -/
theorem arrival_faithful (orderly : resources.Orderly version) {store loaded : Store}
    {number : UInt16} {id : SegmentId} (faithful : store.heap.Faithful resources version)
    (arrived : store.heap.scriptSegment? number = some id ∧ loaded = store ∨
      store.heap.Brought resources number id loaded.heap) :
    loaded.heap.Faithful resources version := by
  -- Only a script that was brought in has to be looked at.
  rcases arrived with ⟨_, rfl⟩ | brought
  · exact faithful
  · exact faithful.of_brought orderly brought

/-- A script that is locked right after it was loaded takes one turn. -/
theorem arrival_turned (orderly : resources.Orderly version) {store loaded : Store}
    {number : UInt16} {id : SegmentId} {script : Script}
    (faithful : store.heap.Faithful resources version)
    (arrived : store.heap.scriptSegment? number = some id ∧ loaded = store ∨
      store.heap.Brought resources number id loaded.heap)
    (place : loaded.heap.scriptSegment? number = some id)
    (found : loaded.heap.get? id = some (.script script)) (member : among number) :
    store.heap.Turned resources version among
      (loaded.heap.modifyScript id fun script =>
        { script.lock.mark false with holdsSuperclasses := true }) := by
  have loadedFaithful := arrival_faithful orderly faithful arrived
  rw [Heap.modifyScript, Heap.modify_eq_put found]
  rcases arrived with ⟨_, rfl⟩ | brought
  · exact .put faithful member place found (.lock script)
  · obtain ⟨bare, locals, localsSegment, offers, foundToo, _⟩ := brought.script
    rw [found, Option.some.injEq, Segment.script.injEq] at foundToo
    rw [faithful.format] at offers
    have locked : { script.lock.mark false with holdsSuperclasses := true } =
        { bare with localsSegment }.withLocks 1 false true := by
      rw [foundToo]
      simp only [Script.withLocks, Script.lock, Script.mark, offers.fresh.lockers]
    refine ⟨loadedFaithful.put place found (script.lockers + 1) false true, ?_,
      fun _ _ stray => Heap.stray_of_brought faithful.sound brought found
        (Heap.stray_of_put place found stray)⟩
    -- Nothing was found under the number before, so coming and being locked is one change.
    rw [Heap.scriptByNumber?_put loadedFaithful.sound place found,
      brought.scriptByNumber? faithful.sound found, Function.update_idem, locked]
    apply Turns.refl.step member
    rw [Heap.scriptByNumber?_of_absent brought.absent]
    exact .come offers

/--
Locking a script makes only those scripts take turns that superclasses lead to from it.

If it fails, a script that was not in memory is not in memory afterwards.
-/
theorem instantiateWithin_turned (orderly : resources.Orderly version) (bound : Nat)
    (number : UInt16) (store : Store) (faithful : store.heap.Faithful resources version) :
    Leads (instantiateWithin resources bound number) store (Either
      (fun _ after =>
        store.heap.Turned resources version (LedTo resources version number) after.heap)
      fun _ after =>
        store.heap.Turned resources version (LedTo resources version number) after.heap ∧
        (store.heap.scriptSegment? number = none →
          after.heap.scriptByNumber? number = none)) := by
  -- The bound counts how far superclasses are followed.
  induction bound generalizing number store with
  | zero => exact ⟨.refl faithful, Heap.scriptByNumber?_of_absent⟩
  | succ bound ih =>
    have each : LocksInTurn resources version (instantiateWithin resources bound) :=
      fun owner between faithful => (ih owner between faithful).either
        (fun _ _ turned => turned) fun _ _ turned => turned.1
    simp only [instantiateWithin, leads_bind, StoreM.leads_read, either_ok]
    apply (leads_loadScript resources number store faithful.sound).either
    · intro id loaded arrived
      obtain ⟨script, found, named, place, _⟩ := arrival_resident faithful.sound arrived
      have loadedFaithful := arrival_faithful orderly faithful arrived
      have present := Heap.script_eq_ok.mpr found
      simp only [StoreM.leads_require, present, either_ok, StoreM.leads_change]
      have entered : store.heap.Turned resources version (LedTo resources version number) _ :=
        arrival_turned orderly faithful arrived place found .refl
      split
      · exact entered
      · have placed : Placed (loaded.heap.modifyScript id fun script =>
            { script.lock.mark false with holdsSuperclasses := true }) number id script :=
          Placed.extends
            ⟨place, script.lockers, script.markedDeleted, script.holdsSuperclasses, found⟩
            (.modifyScript loadedFaithful.sound found ⟨_, _, _, rfl⟩)
        -- A species of the script leads to its owner.
        have needed : ∀ kind ∈ script.superclasses, ∀ owner, resources.owner? kind = some owner →
            owner ≠ number → resources.Depends version number owner := by
          intro kind member owner owned different
          obtain ⟨object, defined, has, same⟩ := Script.mem_superclasses.mp member
          refine (loadedFaithful.offered number script
            (Heap.scriptByNumber?_of_placed place found)).2 owner ?_
          exact ⟨named ▸ different, object, defined, has, same ▸ owned⟩
        rw [leads_bind]
        apply ((lockOwners_turned each script.superclasses [] needed (by simp) _
          entered.faithful).and (lockOwners_extends (instantiateWithin_extends resources bound)
            number script.superclasses [] _ entered.faithful.sound)).mono
        intro outcome between ended
        cases outcome with
        | error fault => exact ended.1.elim
        | ok failure =>
          obtain ⟨⟨turned, taken⟩, extended⟩ := ended
          simp only [either_ok]
          cases failure with
          | none => exact entered.trans turned
          | some failed =>
            obtain ⟨fault, listed⟩ := failed
            simp only [leads_bind]
            apply (rollBack_turned (taken fault listed rfl) between (placed.extends extended)
              turned.faithful).certain
            intro _ after restored
            refine ⟨(entered.trans turned).trans restored.1, ?_⟩
            -- What was not there before is taken away again by the refusal.
            intro absent
            exact restored.2 (by simp [absent])
    · intro fault after failed
      refine ⟨.of_alike faithful failed.1 failed.2, ?_⟩
      intro absent
      rw [failed.2.scriptByNumber?]
      exact Heap.scriptByNumber?_of_absent absent

end Store

end AdventureVm
