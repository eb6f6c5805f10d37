import AdventureVm.Proofs.Locks.Release

/-! Locking a script and the scripts of its superclasses keeps the books balanced. -/

namespace AdventureVm

/--
How the locks that scripts have taken may change while one script is being locked.

Busy scripts neither take nor lose any, and those that take some can be got to from the script.
-/
structure Grown (resources : Resources) (version : Version) (start : UInt16)
    (busy : UInt16 → Prop) (before after : UInt16 → UInt16 → Prop) : Prop where
  /-- What busy scripts have locked stays the same. -/
  kept : ∀ holder other, busy holder → (after holder other ↔ before holder other)
  /-- Whoever has locked more is the script, or a superclass leads there from it. -/
  new : ∀ holder other, after holder other →
    before holder other ∨ Relation.ReflTransGen (resources.Depends version) start holder

namespace Grown

variable {resources : Resources} {version : Version} {start : UInt16} {busy : UInt16 → Prop}
  {first second third : UInt16 → UInt16 → Prop}

/-- Nothing changes while nothing happens. -/
theorem refl : Grown resources version start busy first first :=
  ⟨fun _ _ _ => Iff.rfl, fun _ _ edge => .inl edge⟩

/-- Changes of two stretches of work are changes of both together. -/
theorem trans (early : Grown resources version start busy first second)
    (late : Grown resources version start busy second third) :
    Grown resources version start busy first third := by
  -- An edge at the end is new in the second stretch, new in the first, or there before both.
  constructor
  · intro holder other working
    exact (late.kept holder other working).trans (early.kept holder other working)
  · intro holder other edge
    rcases late.new holder other edge with earlier | reached
    · exact early.new holder other earlier
    · exact .inr reached

/-- What grows from an owner grows from the script that needs it. -/
theorem widen {owner : UInt16} {others : UInt16 → Prop}
    (grown : Grown resources version owner busy first second)
    (depends : resources.Depends version start owner)
    (part : ∀ holder, others holder → busy holder) :
    Grown resources version start others first second := by
  -- The script that needs the owner reaches all that the owner reaches, one step further off.
  refine ⟨fun holder other working => grown.kept holder other (part holder working), ?_⟩
  intro holder other edge
  rcases grown.new holder other edge with earlier | reached
  · exact .inl earlier
  · exact .inr (.head depends reached)

/-- The script itself may take one lock more. -/
theorem adding {owner : UInt16} (grown : Grown resources version start busy first second)
    (apart : ∀ holder, busy holder → holder ≠ start) :
    Grown resources version start busy first (adding second start owner) := by
  constructor
  · -- The script is not busy, so the new edge is nobody's who is.
    intro holder other working
    rw [← grown.kept holder other working]
    simp [AdventureVm.adding, apart holder working]
  · intro holder other either
    rcases either with edge | ⟨rfl, _⟩
    · exact grown.new holder other edge
    · exact .inr .refl

end Grown

namespace Heap

variable {resources : Resources} {version : Version} {owed : UInt16 → Nat}
  {edges : UInt16 → UInt16 → Prop} {busy : UInt16 → Prop} {before after : Heap}
  {number : UInt16} {id : SegmentId}

/-- Memory that holds the same has the same books. -/
theorem Balanced.of_alike (balanced : before.Balanced resources version owed edges busy)
    (sound : after.Sound) (alike : before.Alike after) :
    after.Balanced resources version owed edges busy := by
  -- The books speak of classes and of resident scripts, and both are the same.
  refine ⟨sound, alike.version.trans balanced.format, ?_, ?_⟩
  · intro species
    rw [alike.classes]
    exact balanced.species species
  · rw [alike.scriptByNumber?]
    exact balanced.books

/-- Bringing a script into memory keeps the books balanced. -/
theorem Balanced.of_brought (orderly : resources.Orderly version)
    (balanced : before.Balanced resources version owed edges busy)
    (brought : before.Brought resources number id after) :
    after.Balanced resources version owed edges busy := by
  obtain ⟨script, locals, localsSegment, offers, found, classes⟩ := brought.script
  rw [balanced.format] at offers
  refine ⟨brought.sound, brought.version.trans balanced.format, ?_, ?_⟩
  · -- Its classes are known to be its own.
    intro species
    rw [classes, script?_registerClasses, balanced.species]
    intro object defined isClass
    rw [balanced.species, offers.fresh.number]
    exact orderly.owned number id script locals offers object defined isClass
  · rw [brought.scriptByNumber? balanced.sound found]
    exact balanced.books.arrive (scriptByNumber?_of_absent brought.absent) offers

/-- A script that was unlocked may leave memory. -/
theorem Balanced.of_departed {owed' : UInt16 → Nat} {edges' : UInt16 → UInt16 → Prop}
    {busy' : UInt16 → Prop} {script : Script} {deleted holds : Bool}
    (balanced : before.Balanced resources version owed' edges' busy')
    (place : before.scriptSegment? number = some id)
    (found : before.get? id = some (.script script))
    (departed : Store.Departed before id script after)
    (books : Books resources version (Function.update before.scriptByNumber? number
      (some (script.withLocks 0 deleted holds))) owed edges busy) :
    after.Balanced resources version owed edges busy := by
  refine ⟨departed.sound, departed.version.trans balanced.format, ?_, ?_⟩
  · -- Its classes are forgotten, but not who owns them.
    intro species
    rw [departed.classes, ClassTable.script?_forget]
    exact balanced.species species
  · rw [scriptByNumber?_departed balanced.sound place found departed]
    apply books.leave
    intro other
    by_cases here : other = number
    · subst here
      refine .inr ⟨Function.update_self .., ?_⟩
      intro contents same
      rw [Function.update_self, Option.some.injEq] at same
      rw [← same]
      rfl
    · rw [Function.update_of_ne here, Function.update_of_ne here]
      exact .inl rfl

/-- A script that gets a lock is busy until it has locked what it needs. -/
theorem Balanced.enter (balanced : before.Balanced resources version owed edges busy)
    {script : Script} (place : before.scriptSegment? number = some id)
    (found : before.get? id = some (.script script)) :
    (before.modifyScript id fun script =>
      { script.lock.mark false with holdsSuperclasses := true }).Balanced resources version
        (charge owed [number]) edges fun other => busy other ∨ other = number := by
  -- The lock that was just given is still owed; the books record the script as busy with it.
  have seen := scriptByNumber?_of_placed place found
  have marked : before.Extends (before.modifyScript id fun script =>
      { script.lock.mark false with holdsSuperclasses := true }) :=
    .modifyScript balanced.sound found ⟨_, _, _, rfl⟩
  refine ⟨marked.sound, balanced.format, balanced.species, ?_⟩
  rw [scriptByNumber?_modifyScript balanced.sound place found]
  exact balanced.books.lock seen

/-- A script in memory needs what the script that the resources offer needs. -/
theorem Balanced.depends (balanced : before.Balanced resources version owed edges busy)
    {script : Script} (seen : before.scriptByNumber? number = some script) {other : UInt16}
    (needs : script.Needs resources other) : resources.Depends version number other :=
  (balanced.books.offered number script seen).2 other needs

end Heap

namespace Store

variable {resources : Resources} {version : Version}

/-- A script is where the residents place it, whatever its account. -/
def Placed (heap : Heap) (number : UInt16) (id : SegmentId) (script : Script) : Prop :=
  heap.scriptSegment? number = some id ∧ ∃ lockers deleted holds,
    heap.get? id = some (.script (script.withLocks lockers deleted holds))

/-- A script that is in its place stays there while others are locked. -/
theorem Placed.extends {before after : Heap} {number : UInt16} {id : SegmentId} {script : Script}
    (placed : Placed before number id script) (extended : before.Extends after) :
    Placed after number id script := by
  -- Locking changes accounts, and nothing else about a script that is there.
  obtain ⟨place, _, _, _, found⟩ := placed
  obtain ⟨placeThen, lockers, deleted, holds, foundThen⟩ := extended.stays number id _ place found
  exact ⟨placeThen, lockers, deleted, holds, foundThen⟩

/-- A script that is in its place is found by its number. -/
theorem Placed.seen {heap : Heap} {number : UInt16} {id : SegmentId} {script : Script}
    (placed : Placed heap number id script) : ∃ lockers deleted holds,
      heap.scriptByNumber? number = some (script.withLocks lockers deleted holds) := by
  -- Being in its place is more than being found.
  obtain ⟨place, lockers, deleted, holds, found⟩ := placed
  exact ⟨lockers, deleted, holds, Heap.scriptByNumber?_of_placed place found⟩

/-- What it means that some way to lock a script keeps the books balanced. -/
def LocksBalanced (resources : Resources) (version : Version)
    (lock : UInt16 → StoreM SegmentId) : Prop :=
  ∀ (number : UInt16) (store : Store) (owed : UInt16 → Nat) (edges : UInt16 → UInt16 → Prop)
    (busy : UInt16 → Prop), store.heap.Balanced resources version owed edges busy →
    Leads (lock number) store (Either
      (fun _ after => ∃ edges', Grown resources version number busy edges edges' ∧
        after.heap.Balanced resources version (charge owed [number]) edges' busy)
      fun _ after => ∃ edges', Grown resources version number busy edges edges' ∧
        after.heap.Balanced resources version owed edges' busy)

/-- What a script has locked, once it has locked the owners of species or failed to. -/
def Account (resources : Resources) (number : UInt16) (locked species : List UInt16)
    (edges : UInt16 → UInt16 → Prop) : Option (Fault × List UInt16) → Prop
  | none => ∀ other, edges number other ↔ other ∈ locked ∨
      ∃ kind ∈ species, resources.owner? kind = some other ∧ other ≠ number
  | some (_, taken) => taken.Nodup ∧ ∀ other, edges number other ↔ other ∈ taken

/-- Where locking the owners of species ends, whether all of them could be locked or not. -/
def OwnersLocked (resources : Resources) (version : Version) (number : UInt16) (id : SegmentId)
    (script : Script) (owed : UInt16 → Nat) (busy others : UInt16 → Prop)
    (locked species : List UInt16) (edges : UInt16 → UInt16 → Prop)
    (failure : Option (Fault × List UInt16)) (after : Store) : Prop :=
  ∃ edges', Grown resources version number others edges edges' ∧
    after.heap.Balanced resources version owed edges' busy ∧
    Placed after.heap number id script ∧ Account resources number locked species edges' failure

/-- What is to be locked: it is locked already, or it is the owner of a species that is left. -/
def Due (resources : Resources) (number : UInt16) (taken later : List UInt16) (other : UInt16) :
    Prop :=
  other ∈ taken ∨ ∃ kind ∈ later, resources.owner? kind = some other ∧ other ≠ number

section Due

variable {number : UInt16} {taken later : List UInt16} {kind found : UInt16}

/-- A species whose owner is the script itself or is locked already changes nothing. -/
theorem due_pass
    (passed : ∀ other, resources.owner? kind = some other → other ≠ number → other ∈ taken)
    (other : UInt16) :
    Due resources number taken later other ↔ Due resources number taken (kind :: later) other := by
  constructor
  · rintro (earlier | ⟨later, member, owner⟩)
    · exact .inl earlier
    · exact .inr ⟨later, List.mem_cons_of_mem _ member, owner⟩
  · rintro (earlier | ⟨later, member, owner, different⟩)
    · exact .inl earlier
    · -- The owner of the species at hand was among the locked ones before.
      rcases List.mem_cons.mp member with rfl | member
      · exact .inl (passed other owner different)
      · exact .inr ⟨later, member, owner, different⟩

/-- The owner of the species at hand is to be locked, and no less so once it is locked. -/
theorem due_step (owner : resources.owner? kind = some found) (different : found ≠ number)
    (other : UInt16) :
    Due resources number (taken ++ [found]) later other ↔
      Due resources number taken (kind :: later) other := by
  rw [Due, List.mem_append, List.mem_singleton]
  constructor
  · rintro ((earlier | rfl) | ⟨later, member, owner⟩)
    · exact .inl earlier
    · exact .inr ⟨kind, List.mem_cons_self, owner, different⟩
    · exact .inr ⟨later, List.mem_cons_of_mem _ member, owner⟩
  · rintro (earlier | ⟨later, member, owned, apart⟩)
    · exact .inl (.inl earlier)
    · -- A species has one owner, which is the script that was just locked.
      rcases List.mem_cons.mp member with rfl | member
      · rw [owner, Option.some.injEq] at owned
        exact .inl (.inr owned.symm)
      · exact .inr ⟨later, member, owned, apart⟩

end Due

/-- How the books stand between two species while a busy script locks the owners of them all. -/
structure OwnersHeld (resources : Resources) (version : Version) (id : SegmentId) (script : Script)
    (owed : UInt16 → Nat) (busy others : UInt16 → Prop) (before : UInt16 → UInt16 → Prop)
    (later taken : List UInt16) (edges : UInt16 → UInt16 → Prop) (between : Store) : Prop where
  /-- Nobody has taken a lock but those that the script leads to. -/
  grown : Grown resources version script.number others before edges
  /-- The books are balanced. -/
  balanced : between.heap.Balanced resources version owed edges busy
  /-- The script is still in its place. -/
  placed : Placed between.heap script.number id script
  /-- No script was locked twice. -/
  distinct : taken.Nodup
  /-- What the script has locked is what is listed. -/
  listed : ∀ other, edges script.number other ↔ other ∈ taken
  /-- The species that are left are those of superclasses. -/
  known : ∀ kind ∈ later, kind ∈ script.superclasses

namespace OwnersHeld

variable {id : SegmentId} {script : Script} {owed : UInt16 → Nat} {busy others : UInt16 → Prop}
  {before edges edges' : UInt16 → UInt16 → Prop} {later taken : List UInt16} {kind found : UInt16}
  {between after : Store}

/-- A species may be passed over. -/
theorem pass (held : OwnersHeld resources version id script owed busy others before (kind :: later)
      taken edges between) :
    OwnersHeld resources version id script owed busy others before later taken edges between :=
  { held with known := fun other member => held.known other (List.mem_cons_of_mem _ member) }

/-- The script needs the owner of a species that is left, unless that is the script itself. -/
theorem needs (held : OwnersHeld resources version id script owed busy others before
      (kind :: later) taken edges between)
    (owner : resources.owner? kind = some found) (different : found ≠ script.number) :
    script.Needs resources found := by
  -- The species comes from an object of the script that is known to have a superclass.
  obtain ⟨object, defined, has, same⟩ :=
    Script.mem_superclasses.mp (held.known kind List.mem_cons_self)
  exact ⟨different, object, defined, has, same ▸ owner⟩

/-- What the script needs, its superclasses lead to. -/
theorem depends (held : OwnersHeld resources version id script owed busy others before later taken
      edges between) (needs : script.Needs resources found) :
    resources.Depends version script.number found := by
  -- The script is seen under its number, so its needs are those of the resources.
  obtain ⟨_, _, _, seen⟩ := held.placed.seen
  exact held.balanced.depends seen needs

/-- Locking an owner failed, and nobody who is busy has lost or taken a lock. -/
theorem refuse (held : OwnersHeld resources version id script owed busy others before
      (kind :: later) taken edges between) (working : busy script.number)
    (rest : ∀ holder, others holder → busy holder ∧ holder ≠ script.number)
    (needs : script.Needs resources found) (extended : between.heap.Extends after.heap)
    (grown : Grown resources version found busy edges edges')
    (balanced : after.heap.Balanced resources version owed edges' busy) :
    OwnersHeld resources version id script owed busy others before [] taken edges' after where
  -- What the owner has taken grows from the script that needs it.
  grown := held.grown.trans
    (grown.widen (held.depends needs) fun holder other => (rest holder other).1)
  balanced := balanced
  placed := held.placed.extends extended
  distinct := held.distinct
  listed other := (grown.kept script.number other working).trans (held.listed other)
  known := by simp

/-- The owner of a species was locked, and the lock is put down to the script. -/
theorem lock (held : OwnersHeld resources version id script owed busy others before
      (kind :: later) taken edges between) (working : busy script.number)
    (rest : ∀ holder, others holder → busy holder ∧ holder ≠ script.number)
    (needs : script.Needs resources found) (fresh : found ∉ taken)
    (extended : between.heap.Extends after.heap)
    (grown : Grown resources version found busy edges edges')
    (balanced : after.heap.Balanced resources version (charge owed [found]) edges' busy) :
    OwnersHeld resources version id script owed busy others before later (taken ++ [found])
      (adding edges' script.number found) after := by
  have same := fun other => grown.kept script.number other working
  -- Whoever is busy has not taken this lock while the owner was locked.
  have unheld : ¬ edges' script.number found := by
    rw [same, held.listed]
    exact fresh
  have placed := held.placed.extends extended
  obtain ⟨_, _, _, seen⟩ := placed.seen
  refine ⟨held.grown.trans ((grown.widen (held.depends needs) fun holder other =>
    (rest holder other).1).adding fun holder other => (rest holder other).2), ?_, placed, ?_, ?_,
    held.pass.known⟩
  · exact ⟨balanced.sound, balanced.format, balanced.species,
      balanced.books.lend working seen needs unheld held.balanced.books.pending⟩
  · rw [← List.concat_eq_append]
    exact held.distinct.concat fresh
  · intro other
    simp only [adding, same, held.listed, true_and, List.mem_append, List.mem_singleton]

end OwnersHeld

/--
Locking the scripts of superclasses one after the other keeps the books balanced.

The script at work is busy, and the list of those locked so far is what it has taken.
-/
theorem lockOwners_balanced {lock : UInt16 → StoreM SegmentId}
    (each : LocksBalanced resources version lock)
    (stays : ∀ owner (store : Store), store.heap.Sound →
      Leads (lock owner) store fun _ after => store.heap.Extends after.heap)
    {owed : UInt16 → Nat} {busy others : UInt16 → Prop} {number : UInt16} {id : SegmentId}
    {script : Script} (named : script.number = number) (working : busy number)
    (rest : ∀ holder, others holder → busy holder ∧ holder ≠ number)
    (species locked : List UInt16) (known : ∀ kind ∈ species, kind ∈ script.superclasses)
    (distinct : locked.Nodup) (store : Store) {edges : UInt16 → UInt16 → Prop}
    (listed : ∀ other, edges number other ↔ other ∈ locked)
    (placed : Placed store.heap number id script)
    (balanced : store.heap.Balanced resources version owed edges busy) :
    Leads (lockOwners lock number species locked) store (Either
      (OwnersLocked resources version number id script owed busy others locked species edges)
      fun _ _ => False) := by
  subst named
  -- Between two species, what is to be locked is the same as at the start.
  refine (leads_lockOwners
    (fun later taken between => (∃ edges', OwnersHeld resources version id script owed busy others
        edges later taken edges' between) ∧
      ∀ other, Due resources script.number taken later other ↔
        Due resources script.number locked species other)
    (fun _ taken between => ∃ edges', OwnersHeld resources version id script owed busy others
      edges [] taken edges' between)
    ⟨⟨edges, .refl, balanced, placed, distinct, listed, known⟩, fun _ => Iff.rfl⟩ ?_ ?_ ?_).certain
    ?_
  · -- A species that nobody is named for is passed over.
    rintro kind later taken between text ⟨⟨edges', held⟩, due⟩ owner
    rw [held.balanced.species] at owner
    refine ⟨⟨edges', { held.pass with balanced := held.balanced }⟩, fun other => ?_⟩
    refine (due_pass (fun other named => ?_) other).trans (due other)
    rw [owner] at named
    cases named
  · -- The script itself, or one that it has locked already, is passed over.
    rintro kind later taken between found ⟨⟨edges', held⟩, due⟩ owner passed
    rw [held.balanced.species] at owner
    refine ⟨⟨edges', held.pass⟩, fun other => (due_pass ?_ other).trans (due other)⟩
    intro other named different
    rw [owner, Option.some.injEq] at named
    rw [← named] at different ⊢
    exact passed.resolve_left different
  · -- An owner that is new is locked, and then it is listed, or the list ends here.
    rintro kind later taken between found ⟨⟨edges', held⟩, due⟩ owner different fresh
    rw [held.balanced.species] at owner
    have needs := held.needs owner different
    apply ((each found between owed edges' busy held.balanced).and
      (stays found between held.balanced.sound)).mono
    rintro outcome after ⟨locks, extended⟩
    cases outcome with
    | error fault =>
      obtain ⟨edges'', grown, balancedThen⟩ := locks
      exact ⟨edges'', held.refuse working rest needs extended grown balancedThen⟩
    | ok value =>
      obtain ⟨edges'', grown, balancedThen⟩ := locks
      exact ⟨⟨_, held.lock working rest needs fresh extended grown balancedThen⟩,
        fun other => (due_step owner different other).trans (due other)⟩
  · -- At the end nothing is left to be locked, so the list is all that was due.
    intro failure after ended
    cases failure with
    | none =>
      obtain ⟨taken, ⟨edges', held⟩, due⟩ := ended
      refine ⟨edges', held.grown, held.balanced, held.placed, fun other => ?_⟩
      rw [held.listed, ← Due, ← due, Due]
      simp
    | some failed =>
      obtain ⟨edges', held⟩ := ended
      exact ⟨edges', held.grown, held.balanced, held.placed, held.distinct, held.listed⟩

/-- Taking back the lock on a script whose superclasses could not be locked restores the debts. -/
theorem rollBack_balanced {owed : UInt16 → Nat} {busy : UInt16 → Prop} {number : UInt16}
    {id : SegmentId} {script : Script} {resident : Bool} {taken : List UInt16} (store : Store)
    {edges : UInt16 → UInt16 → Prop} (free : owed number = 0)
    (unheld : ∀ holder, ¬ edges holder number) (distinct : taken.Nodup)
    (listed : ∀ other, edges number other ↔ other ∈ taken)
    (pending : ∀ holder, busy holder → 0 < owed holder)
    (placed : Placed store.heap number id script)
    (balanced : store.heap.Balanced resources version (charge owed [number]) edges
      fun other => busy other ∨ other = number) :
    Leads (rollBack resident id taken) store (Either
      (fun _ after => ∃ edges', after.heap.Balanced resources version owed edges' busy ∧
        (∀ holder other, edges' holder other → edges holder other) ∧
        ∀ holder other, busy holder → edges holder other → edges' holder other)
      fun _ _ => False) := by
  -- What the script has locked is owed for the moment, and then given back.
  have reclaimed : store.heap.Balanced resources version (charge (charge owed [number]) taken)
      (without edges number) fun other => busy other ∨ other = number :=
    ⟨balanced.sound, balanced.format, balanced.species,
      balanced.books.reclaim (.inr rfl) distinct listed⟩
  obtain ⟨edges', released, fewer, kept⟩ :=
    release_balanced store taken balanced.books.pending reclaimed
  -- The script itself is still in its place, and nobody but the caller has locked it.
  have extended := release_extends store taken balanced.sound
  have placedThen := placed.extends extended
  obtain ⟨place, lockers, deleted, holds, found⟩ := placedThen
  have seen := Heap.scriptByNumber?_of_placed place found
  obtain ⟨one, abandoned⟩ := released.books.abandon seen free
    (fun holder edge => unheld holder (fewer holder number edge).1)
    (fun other edge => (fewer number other edge).2 rfl) pending
  have account : (∀ holder other, edges' holder other → edges holder other) ∧
      ∀ holder other, busy holder → edges holder other → edges' holder other := by
    refine ⟨fun holder other edge => (fewer holder other edge).1, ?_⟩
    intro holder other working edge
    refine kept holder other (.inl working) ⟨edge, ?_⟩
    -- Something is owed on a busy script, and nothing on this one.
    intro equal
    subst equal
    have owing := pending holder working
    omega
  refine leads_rollBack found (fun _ => ?_) fun _ => ?_
  · -- A script that was there before stays, without the lock.
    refine ⟨edges', ⟨(Heap.Extends.modifyScript released.sound found ⟨_, _, _, rfl⟩).sound,
      released.format, released.species, ?_⟩, account⟩
    have given : lockers = 1 := one
    rw [heap_mapHeap, Heap.scriptByNumber?_modifyScript released.sound place found]
    simpa [Script.withLocks, Script.giveUp, given] using abandoned true
  · -- A script that came in vain leaves.
    exact (leads_free_script released.sound found).certain fun _ after departed =>
      ⟨edges', released.of_departed place found departed (abandoned true), account⟩

/--
Locking the superclasses of a script that was just locked keeps the books balanced.

The script did not hold them before. If one of them cannot be locked, its own lock is taken back.
-/
theorem lockSuperclasses_balanced (orderly : resources.Orderly version)
    {lock : UInt16 → StoreM SegmentId} (each : LocksBalanced resources version lock)
    (stays : ∀ owner (store : Store), store.heap.Sound →
      Leads (lock owner) store fun _ after => store.heap.Extends after.heap)
    {owed : UInt16 → Nat} {edges : UInt16 → UInt16 → Prop} {busy : UInt16 → Prop}
    {number : UInt16} {id : SegmentId} {script : Script} (named : script.number = number)
    (resident : Bool) (entered : Store) (free : owed number = 0)
    (unlocked : ∀ holder, ¬ edges holder number) (nothing : ∀ other, ¬ edges number other)
    (pending : ∀ holder, busy holder → 0 < owed holder)
    (placed : Placed entered.heap number id script)
    (locked : entered.heap.Balanced resources version (charge owed [number]) edges
      fun other => busy other ∨ other = number) :
    Leads (do
        match ← lockOwners lock number script.superclasses [] with
        | none => return id
        | some (fault, taken) =>
          rollBack resident id taken
          throw fault) entered (Either
      (fun _ after => ∃ edges', Grown resources version number busy edges edges' ∧
        after.heap.Balanced resources version (charge owed [number]) edges' busy)
      fun _ after => ∃ edges', Grown resources version number busy edges edges' ∧
        after.heap.Balanced resources version owed edges' busy) := by
  -- Whoever else is busy is owed something, which the script is not.
  have apart : ∀ holder, busy holder → (busy holder ∨ holder = number) ∧ holder ≠ number := by
    intro holder working
    refine ⟨.inl working, ?_⟩
    intro equal
    subst equal
    have owing := pending holder working
    omega
  have listed : ∀ other, edges number other ↔ other ∈ ([] : List UInt16) := by
    intro other
    exact iff_of_false (nothing other) List.not_mem_nil
  rw [leads_bind]
  apply (lockOwners_balanced each stays named (.inr rfl) apart script.superclasses []
    (fun _ member => member) List.nodup_nil entered listed placed locked).certain
  intro failure between ended
  obtain ⟨edges', grown, balancedThen, placedThen, account⟩ := ended
  simp only [either_ok]
  cases failure with
  | none =>
    -- All owners are locked, so the script is done.
    refine ⟨edges', grown, balancedThen.sound, balancedThen.format, balancedThen.species, ?_⟩
    obtain ⟨_, _, _, seenThen⟩ := placedThen.seen
    apply balancedThen.books.finish seenThen
    intro _ other needs
    obtain ⟨different, object, defined, has, owner⟩ := needs
    refine (account other).mpr (.inr ⟨object.superclass, ?_, owner, named ▸ different⟩)
    exact Script.mem_superclasses.mpr ⟨object, defined, has, rfl⟩
  | some failed =>
    obtain ⟨fault, taken⟩ := failed
    obtain ⟨distinct, listed⟩ := account
    -- A holder of the script would be got to from it, and lead back to it.
    have alone : ∀ holder, ¬ edges' holder number := by
      intro holder edge
      rcases grown.new holder number edge with earlier | reached
      · exact unlocked holder earlier
      · obtain ⟨contents, seenThen, _, needs⟩ := balancedThen.books.taken holder number edge
        exact orderly.acyclic number (.tail' reached (balancedThen.depends seenThen needs))
    simp only [leads_bind]
    apply (rollBack_balanced between free alone distinct listed pending placedThen
      balancedThen).certain
    intro _ after restored
    obtain ⟨edges'', balancedAgain, fewer, kept⟩ := restored
    -- Between entering and leaving, others have kept their locks and got no further ones.
    refine ⟨edges'', ⟨?_, ?_⟩, balancedAgain⟩
    · intro holder other working
      rw [← grown.kept holder other working]
      exact ⟨fewer holder other, kept holder other working⟩
    · exact fun holder other edge => grown.new holder other (fewer holder other edge)

/--
Locking a script keeps the books balanced.

A success leaves one lock more on the script, and a failure leaves every debt as it was.
-/
theorem instantiateWithin_balanced (orderly : resources.Orderly version) (bound : Nat) :
    LocksBalanced resources version (instantiateWithin resources bound) := by
  -- The bound counts how far superclasses are followed.
  induction bound with
  | zero =>
    intro number store owed edges busy balanced
    exact ⟨edges, .refl, balanced⟩
  | succ bound ih =>
    intro number store owed edges busy balanced
    simp only [instantiateWithin, leads_bind, StoreM.leads_read, either_ok]
    apply (leads_loadScript resources number store balanced.sound).either
    · intro id loaded arrived
      have loadedBalanced : loaded.heap.Balanced resources version owed edges busy := by
        rcases arrived with ⟨_, rfl⟩ | brought
        · exact balanced
        · exact balanced.of_brought orderly brought
      obtain ⟨script, found, named, place, _⟩ := arrival_resident balanced.sound arrived
      have seen := Heap.scriptByNumber?_of_placed place found
      have present := Heap.script_eq_ok.mpr found
      simp only [StoreM.leads_require, present, either_ok, StoreM.leads_change]
      -- The script gets its lock first, and is busy from then on.
      have locked := loadedBalanced.enter place found
      have placed : Placed (loaded.heap.modifyScript id fun script =>
          { script.lock.mark false with holdsSuperclasses := true }) number id script :=
        Placed.extends
          ⟨place, script.lockers, script.markedDeleted, script.holdsSuperclasses, found⟩
          (.modifyScript loadedBalanced.sound found ⟨_, _, _, rfl⟩)
      split
      · -- A script that holds its superclasses already has locked them all.
        rename_i held
        refine ⟨edges, .refl, locked.sound, locked.format, locked.species, ?_⟩
        obtain ⟨_, _, _, seenThen⟩ := placed.seen
        apply locked.books.finish seenThen
        intro idle other needs
        exact loadedBalanced.books.complete number script other seen held idle needs
      · rename_i unheld
        obtain ⟨free, unlocked, nothing⟩ := loadedBalanced.books.idle seen unheld
        exact lockSuperclasses_balanced orderly ih (instantiateWithin_extends resources bound)
          named _ _ free unlocked nothing balanced.books.pending placed locked
    · -- A script that cannot be loaded leaves everything as it was.
      intro fault after failed
      exact ⟨edges, .refl, balanced.of_alike failed.1 failed.2⟩

end Store

end AdventureVm
